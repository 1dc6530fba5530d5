import GeneratedContent.Proofs.Css.Passage
import GeneratedContent.Proofs.Css.Span

/-!
# Where blocks stand

A block takes up a part of its stylesheet: it begins with its prelude, an opening brace follows, and
its closing brace is the last character. This module says what it is for a block to stand in
a stylesheet (`Block.StandsIn`), in offsets into the text alone, and that all blocks of all stylesheets
do, one behind the other (`blocks_standIn`).
-/

namespace GeneratedContent.Css

/-- Whether a block stands in a stylesheet where its offsets say. -/
structure Block.StandsIn (b : Block) (css : Text) : Prop where
  /-- The block takes up some text. -/
  start_lt_stop : b.start < b.stop
  /-- It ends in the stylesheet. -/
  stop_le_length : b.stop ≤ css.length
  /-- Its last character is a closing brace. -/
  closed : css[b.stop - 1]? = some '}'
  /-- Its first character is not blank. -/
  notBlank : ∃ c, css[b.start]? = some c ∧ isBlank c = false
  /-- It does not begin with a comment. -/
  notComment : ¬ "/*".toList <+: css.drop b.start
  /-- An opening brace stands between the prelude and the body. -/
  opened : ∃ brace, b.start ≤ brace ∧ brace < b.stop - 1 ∧ css[brace]? = some '{' ∧
    b.prelude = Text.trim (withoutComments (css.extract b.start brace)) ∧
    b.body = css.extract (brace + 1) (b.stop - 1)
  /-- It is no at-rule. -/
  notAt : b.prelude.head? ≠ some '@'
  /-- Outside strings and comments the body closes as many braces as it opens. -/
  count_eq : (lex b.body).count (.single '}') = (lex b.body).count (.single '{')
  /-- It never closes more than it has opened. -/
  count_le : ∀ ls, ls <+: lex b.body → ls.count (.single '}') ≤ ls.count (.single '{')

/-! ## Counting braces -/

theorem count_of_nesting? {depth d : Nat} {ls : List Lexeme} (h : nesting? depth ls = some d) :
    depth + ls.count (.single '{') = d + ls.count (.single '}') := by
  fun_induction nesting? depth ls with
  | case1 depth => simpa using h
  | case2 depth ls ih =>
    have hcount := ih h
    simp
    omega
  | case3 ls ho => simp at h
  | case4 ls depth ho ih =>
    have hcount := ih h
    simp
    omega
  | case5 depth l ls ho hc ih =>
    rw [List.count_cons_of_ne ho, List.count_cons_of_ne hc]
    exact ih h

theorem Balanced.count_eq {ls : List Lexeme} (h : Balanced ls) :
    ls.count (.single '}') = ls.count (.single '{') := by
  have hcount := count_of_nesting? h
  omega

/-- The first lexemes of a body leave no brace closed that is not open. -/
theorem Balanced.count_le {front ls : List Lexeme} (h : Balanced ls) (hfront : front <+: ls) :
    front.count (.single '}') ≤ front.count (.single '{') := by
  rcases hfront with ⟨rest, rfl⟩
  rw [Balanced, nesting?_append] at h
  rcases Option.bind_eq_some_iff.1 h with ⟨d, hd, -⟩
  have hcount := count_of_nesting? hd
  omega

/-! ## Offsets of a passage -/

/-- What stands between two parts of a text. -/
theorem extract_between (front middle behind : Text) {start stop : Nat}
    (hstart : start = front.length) (hstop : stop = front.length + middle.length) :
    (front ++ (middle ++ behind)).extract start stop = middle := by
  rw [hstart, hstop, List.extract_eq_take_drop, List.drop_left, Nat.add_sub_cancel_left,
    List.take_left]

/-- What a rule begins with is no comment and not blank. -/
theorem Passage.exists_first (p : Passage) {after : List Lexeme}
    (hlex : Lexed (braced p.head p.body ++ after)) :
    ∃ c s, flatten (braced p.head p.body ++ after) = c :: s ∧ isBlank c = false ∧
      ¬ "/*".toList <+: c :: s := by
  -- the first lexeme of the rule is the first of the head, or the brace
  obtain ⟨l, ls, hls, hl⟩ : ∃ l ls, braced p.head p.body ++ after = l :: ls ∧ l.Begins := by
    rw [braced_append]
    cases hhead : p.head with
    | nil => exact ⟨_, _, rfl, rfl, '{', [], rfl, by decide⟩
    | cons l head => exact ⟨l, _, rfl, p.begins l (by simp [hhead])⟩
  rcases hl.notBlank with ⟨c, s, htext, hc⟩
  rw [hls] at hlex ⊢
  have hflat : flatten (l :: ls) = c :: (s ++ flatten ls) := by rw [flatten_cons, htext]; rfl
  refine ⟨c, s ++ flatten ls, hflat, hc, ?_⟩
  rintro ⟨rest, hrest⟩
  -- a comment would have been read as one
  have hcomment := lex_comment rest
  have hread : lex ('/' :: '*' :: rest) = l :: ls := by
    rw [← hlex, hflat, ← hrest]
    rfl
  rw [hread] at hcomment
  have hfiller := hl.notFiller
  rw [(List.cons.inj hcomment).1] at hfiller
  exact absurd hfiller (by simp [Lexeme.isFiller])

/-- The block of a passage stands in the text of the lexemes. -/
theorem Passage.standsIn (p : Passage) {after : List Lexeme}
    (hlex : Lexed (p.before ++ (braced p.head p.body ++ after))) :
    (p.block 0).StandsIn (flatten (p.before ++ (braced p.head p.body ++ after))) := by
  have hrule : Lexed (p.head ++ .single '{' :: p.body ++ .single '}' :: after) :=
    braced_append p.head p.body after ▸ hlex.of_append
  have hbody : lex (flatten p.body) = p.body := hrule.of_rule.1
  have hhead : lex (flatten p.head) = p.head := by
    rw [List.append_assoc] at hrule
    exact hrule.of_append_left
  rcases p.exists_first hlex.of_append with ⟨c, s, hfirst, hblank, hcomment⟩
  -- the text before the rule, its head, its body and the text behind it
  have hsplit : flatten (p.before ++ (braced p.head p.body ++ after)) =
      flatten p.before ++ (flatten p.head ++ '{' :: (flatten p.body ++ '}' :: flatten after)) := by
    simp [braced]
  have hdrop : (flatten (p.before ++ (braced p.head p.body ++ after))).drop (p.block 0).start =
      c :: s := by
    rw [flatten_append, hfirst]
    simp [block]
  constructor
  case start_lt_stop =>
    simp only [block]
    omega
  case stop_le_length =>
    simp only [block, hsplit, List.length_append, List.length_cons]
    omega
  case closed =>
    have hlast : (p.block 0).stop - 1 =
        (flatten p.before ++ (flatten p.head ++ '{' :: flatten p.body)).length := by
      simp [block]
      omega
    rw [hlast, hsplit]
    simp
  case notBlank =>
    refine ⟨c, ?_, hblank⟩
    rw [← List.head?_drop, hdrop]
    rfl
  case notComment => rwa [hdrop]
  case opened =>
    refine ⟨(flatten p.before).length + (flatten p.head).length, ?_, ?_, ?_, ?_, ?_⟩
    · simp [block]
    · simp only [block]
      omega
    · rw [hsplit]
      simp
    · rw [hsplit, extract_between _ _ _ (by simp [block]) rfl, withoutComments, hhead]
      rfl
    · have hinner : flatten p.before ++
            (flatten p.head ++ '{' :: (flatten p.body ++ '}' :: flatten after)) =
          (flatten p.before ++ (flatten p.head ++ ['{'])) ++
            (flatten p.body ++ '}' :: flatten after) := by
        simp
      have hbrace : (flatten p.before).length + (flatten p.head).length + 1 =
          (flatten p.before ++ (flatten p.head ++ ['{'])).length := by
        simp [Nat.add_assoc]
      have hstop : (p.block 0).stop - 1 =
          (flatten p.before ++ (flatten p.head ++ ['{'])).length + (flatten p.body).length := by
        simp [block]
        omega
      rw [hsplit, hinner, extract_between _ _ _ hbrace hstop]
      rfl
  case notAt => exact p.notAt
  case count_eq =>
    rw [block, hbody]
    exact p.balanced.count_eq
  case count_le =>
    rw [block, hbody]
    exact fun ls hls => p.balanced.count_le hls

/-- All blocks of all stylesheets stand where their offsets say, and each ends before the next begins. -/
theorem blocks_standIn (css : Text) :
    ((blocks css).Pairwise fun a b => a.stop ≤ b.start) ∧ ∀ b ∈ blocks css, b.StandsIn css := by
  refine ⟨(scan_within 0 (lex css)).apart, ?_⟩
  intro b hb
  rcases exists_outlined (lexed_lex css) with ⟨ps, h⟩
  rw [blocks, h.scan_eq] at hb
  rcases List.mem_map.1 hb with ⟨p, hp, rfl⟩
  rcases h.exists_eq hp with ⟨after, hlex⟩
  have hall : Lexed (p.before ++ (braced p.head p.body ++ after)) := hlex ▸ lexed_lex css
  have hstands := p.standsIn hall
  rwa [← hlex, flatten_lex] at hstands

end GeneratedContent.Css
