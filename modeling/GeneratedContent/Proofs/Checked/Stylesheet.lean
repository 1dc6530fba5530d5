import GeneratedContent.Proofs.Checked.Position
import GeneratedContent.Proofs.Css.Joining
import GeneratedContent.Proofs.Css.Outline

/-!
# Reading a stylesheet by positions

The loops that read a stylesheet, with every step checked: leaving comments out (`strip`), splitting at the
top level (`pieces`), looking for the brace that closes a block (`blockEnd`) and collecting the blocks
(`scan`), which goes into the body of an at-rule with the closing brace as its bound. Each does what is
done with the lexemes that stand there, and none fails (`strip_eq`, `pieces_eq`, `blockEnd_eq`, `scan_eq`).
-/

namespace GeneratedContent.Checked

open Css

/-! ## The loops -/

/-- A text from an index on, comments left out. -/
def strip (s : Text) (index : Nat) : Checked Text :=
  if index < s.length then do
    let (l, next) ← lexemeAt s s.length index
    let rest ← strip s next
    return l.visible ++ rest
  else return []
termination_by s.length - index
decreasing_by
  have := next.2
  omega

/-- The pieces of a text from an index on, with `depth` brackets open there; the first piece begins at
`start`. -/
def pieces (separator : Char) (s : Text) (depth start index : Nat) : Checked (List Text) :=
  if index < s.length then do
    let (l, next) ← lexemeAt s s.length index
    match l with
    | .single c =>
      if isOpener c then pieces separator s (depth + 1) start next
      else if isCloser c ∧ 0 < depth then pieces separator s (depth - 1) start next
      else if c = separator ∧ depth = 0 then do
        let rest ← pieces separator s depth next next
        return s.extract start index :: rest
      else pieces separator s depth start next
    | _ => pieces separator s depth start next
  else return [s.drop start]
termination_by s.length - index
decreasing_by
  all_goals
    have := next.2
    omega

/-- Where the brace stands that closes a block, with `depth` more braces open at an index inside it. -/
def blockEnd (css : Text) (stop depth index : Nat) : Checked (Option (Fin stop)) :=
  if h : index < stop then do
    let (l, next) ← lexemeAt css stop index
    if l = .single '{' then blockEnd css stop (depth + 1) next
    else if l = .single '}' then
      match depth with
      | 0 => return some ⟨index, h⟩
      | depth + 1 => blockEnd css stop depth next
    else blockEnd css stop depth next
  else return none
termination_by stop - index
decreasing_by
  all_goals
    have := next.2
    omega

/-- The blocks from an index on, with the offset at which a prelude has begun before it, if one has. In the
body of an at-rule every block has to be closed. -/
def scan (css : Text) (inAtRule : Bool) (stop : Nat) (start? : Option Nat) (index : Nat) :
    Checked (List Block) :=
  if index < stop then do
    let (l, next) ← lexemeAt css stop index
    if l = .single '{' then
      match ← blockEnd css stop 0 next with
      | none => if inAtRule then throw (.unclosed index) else return []
      | some close => do
        let behind ← forward index (close + 1) stop
        let start := start?.getD index
        let prelude := Text.trim (← strip (css.extract start index) 0)
        let found ←
          if prelude.head? = some '@' then scan css true close none next
          else pure [⟨prelude, css.extract next close, start, close + 1⟩]
        let rest ← scan css inAtRule stop none behind
        return found ++ rest
    else if l.endsPrelude then scan css inAtRule stop none next
    else scan css inAtRule stop (if l.isFiller then start? else start?.or (some index)) next
  else return []
termination_by stop - index
decreasing_by
  · have := behind.2
    omega
  · have := close.2
    have := next.2
    omega
  all_goals
    have := next.2
    omega

/-- The blocks of a stylesheet. -/
def blocks (css : Text) : Checked (List Block) := scan css false css.length none 0

/-! ## Comments and pieces -/

section Text

variable {s : Text} {index : Nat} {ls : List Lexeme}

theorem strip_of_stands (h : Stands s s.length index ls) : strip s index = .ok (visible ls) := by
  induction ls generalizing index with
  | nil =>
    rw [strip, h.eq_of_nil, if_neg (Nat.lt_irrefl _)]
    rfl
  | cons l ls ih =>
    rcases lexemeAt_eq h with ⟨hahead, hread⟩
    rw [strip, if_pos h.lt, hread, ok_bind]
    simp only [ih h.tail, ok_bind, visible_cons]
    rfl

/-- Leaving comments out does not fail. -/
theorem strip_eq (s : Text) : strip s 0 = .ok (withoutComments s) := strip_of_stands (Stands.whole s)

theorem attach_attach (t u : Text) (ps : List Text) :
    Text.attach t (Text.attach u ps) = Text.attach (t ++ u) ps := by
  cases ps with
  | nil => rfl
  | cons p ps => simp [Text.attach]

theorem attach_nil {ps : List Text} (h : ps ≠ []) : Text.attach [] ps = ps := by
  cases ps with
  | nil => exact absurd rfl h
  | cons p ps => rfl

theorem extract_self (s : Text) (index : Nat) : s.extract index index = [] := by
  rw [List.extract_eq_take_drop, Nat.sub_self, List.take_zero]

/-- What stands up to a position further on is longer by what stands between. -/
theorem extract_append {start next : Nat} (hstart : start ≤ index) (hnext : index ≤ next) :
    s.extract start next = s.extract start index ++ s.extract index next := by
  have hcount : next - start = (index - start) + (next - index) := by omega
  have hdrop : start + (index - start) = index := by omega
  rw [List.extract_eq_take_drop, List.extract_eq_take_drop, List.extract_eq_take_drop, hcount,
    List.take_add, List.drop_drop, hdrop]

theorem pieces_of_stands (sep : Char) {depth start : Nat} (h : Stands s s.length index ls)
    (hstart : start ≤ index) :
    pieces sep s depth start index =
      .ok (Text.attach (s.extract start index) (splitLexemes sep depth ls)) := by
  induction ls generalizing depth start index with
  | nil =>
    rw [pieces, h.eq_of_nil, if_neg (Nat.lt_irrefl _), splitLexemes, Text.attach, List.append_nil,
      List.extract_eq_take_drop, List.take_of_length_le (by simp)]
    rfl
  | cons l ls ih =>
    rcases lexemeAt_eq h with ⟨hahead, hread⟩
    have hnext : s.extract start (index + l.text.length) = s.extract start index ++ l.text := by
      rw [extract_append hstart (Nat.le_of_lt hahead.1), h.extract_text]
    -- the lexeme comes to the piece that is being read, unless it is the separator behind it
    have hgoes : ∀ d, pieces sep s d start (index + l.text.length) =
        .ok (Text.attach (s.extract start index) (Text.attach l.text (splitLexemes sep d ls))) := by
      intro d
      rw [ih h.tail (Nat.le_trans hstart (Nat.le_of_lt hahead.1)), hnext, attach_attach]
    rw [pieces, if_pos h.lt, hread, ok_bind]
    cases l with
    | comment t => exact hgoes depth
    | quoted t => exact hgoes depth
    | single c =>
      rw [splitLexemes]
      simp only
      split
      · exact hgoes _
      · split
        · exact hgoes _
        · split
          · -- a new piece begins behind the separator
            rw [ih h.tail (Nat.le_refl _), ok_bind, extract_self, attach_nil (splitLexemes_ne_nil _ _ _),
              Text.attach, List.append_nil]
            rfl
          · exact hgoes _

/-- Splitting at the top level does not fail. -/
theorem pieces_eq (sep : Char) (s : Text) : pieces sep s 0 0 0 = .ok (splitTopLevel sep s) := by
  rw [pieces_of_stands sep (Stands.whole s) (Nat.le_refl _), extract_self,
    attach_nil (splitLexemes_ne_nil _ _ _), splitTopLevel]

end Text

/-! ## Blocks -/

section Blocks

variable {css : Text} {stop index depth : Nat} {l : Lexeme} {head ls : List Lexeme}

/-- One step of looking for the closing brace. -/
theorem blockEnd_cons (h : Stands css stop index (l :: ls)) :
    blockEnd css stop depth index =
      if l = .single '{' then blockEnd css stop (depth + 1) (index + l.text.length)
      else if l = .single '}' then
        match depth with
        | 0 => .ok (some ⟨index, h.lt⟩)
        | depth + 1 => blockEnd css stop depth (index + l.text.length)
      else blockEnd css stop depth (index + l.text.length) := by
  rcases lexemeAt_eq h with ⟨hahead, hread⟩
  rw [blockEnd, dif_pos h.lt, hread, ok_bind]
  rfl

theorem map_length_cons (index : Nat) (l : Lexeme) (cut? : Option (List Lexeme × List Lexeme)) :
    ((cut?.map fun r => (l :: r.1, r.2)).map fun r => index + (flatten r.1).length) =
      cut?.map fun r => index + l.text.length + (flatten r.1).length := by
  cases cut? with
  | none => rfl
  | some r => simp [Nat.add_assoc]

/-- The closing brace is where the body is cut. -/
theorem blockEnd_of_stands (depth : Nat) (h : Stands css stop index ls) :
    Except.map (Option.map Fin.val) (blockEnd css stop depth index) =
      .ok ((cutBody? depth ls).map fun r => index + (flatten r.1).length) := by
  fun_induction cutBody? depth ls generalizing index with
  | case1 depth =>
    rw [blockEnd, dif_neg (by simp [h.eq_of_nil])]
    rfl
  | case2 depth ls ih =>
    rw [blockEnd_cons h, if_pos rfl, ih h.tail, map_length_cons]
  | case3 ls ho =>
    rw [blockEnd_cons h, if_neg ho, if_pos rfl]
    rfl
  | case4 ls depth ho ih =>
    rw [blockEnd_cons h, if_neg ho, if_pos rfl, map_length_cons]
    exact ih h.tail
  | case5 depth l ls ho hc ih =>
    rw [blockEnd_cons h, if_neg ho, if_neg hc, ih h.tail, map_length_cons]

theorem blockEnd_of_none (h : Stands css stop index ls) (hcut : cutBody? 0 ls = none) :
    blockEnd css stop 0 index = .ok none := by
  have hend := blockEnd_of_stands 0 h
  rw [hcut] at hend
  cases hblock : blockEnd css stop 0 index with
  | error e =>
    rw [hblock] at hend
    cases hend
  | ok close =>
    rw [hblock] at hend
    cases close with
    | none => rfl
    | some close => cases hend

theorem blockEnd_of_some {body next : List Lexeme} (h : Stands css stop index ls)
    (hcut : cutBody? 0 ls = some (body, next)) :
    ∃ close : Fin stop, close.1 = index + (flatten body).length ∧
      blockEnd css stop 0 index = .ok (some close) := by
  have hend := blockEnd_of_stands 0 h
  rw [hcut] at hend
  cases hblock : blockEnd css stop 0 index with
  | error e =>
    rw [hblock] at hend
    cases hend
  | ok close =>
    rw [hblock] at hend
    cases close with
    | none => cases hend
    | some close => exact ⟨close, Option.some.inj (Except.ok.inj hend), rfl⟩

/-! ## Scanning -/

/-- A prelude that has begun goes on, and one that has not begins with what is no filler. -/
theorem scan_step (inAtRule : Bool) (start? : Option Nat) (h : Stands css stop index (l :: ls))
    (hl : l.endsPrelude = false) :
    scan css inAtRule stop start? index =
      scan css inAtRule stop (if l.isFiller then start? else start?.or (some index))
        (index + l.text.length) := by
  rcases lexemeAt_eq h with ⟨hahead, hread⟩
  rw [scan, if_pos h.lt, hread, ok_bind]
  simp only [if_neg (Lexeme.ne_braces hl).1, hl]
  rfl

theorem scan_loose (inAtRule : Bool) (start? : Option Nat) (h : Stands css stop index (l :: ls))
    (hl : l.endsPrelude = true) (hopen : l ≠ .single '{') :
    scan css inAtRule stop start? index = scan css inAtRule stop none (index + 1) := by
  rcases lexemeAt_eq h with ⟨hahead, hread⟩
  rw [scan, if_pos h.lt, hread, ok_bind]
  simp only [if_neg hopen, hl, length_of_endsPrelude hl]
  rfl

theorem scan_end (inAtRule : Bool) (start? : Option Nat) (h : Stands css stop index []) :
    scan css inAtRule stop start? index = .ok [] := by
  rw [scan, h.eq_of_nil, if_neg (Nat.lt_irrefl _)]
  rfl

/-- Nothing is collected before a mark, and a prelude that has begun stays begun. -/
theorem scan_head (inAtRule : Bool) (start? : Option Nat) (h : Stands css stop index (head ++ ls))
    (hhead : ∀ l ∈ head, l.endsPrelude = false) :
    ∃ start?', scan css inAtRule stop start? index =
        scan css inAtRule stop start?' (index + (flatten head).length) ∧
      ∀ p, start? = some p → start?' = some p := by
  induction head generalizing start? index with
  | nil => exact ⟨start?, rfl, fun p hp => hp⟩
  | cons l head ih =>
    rw [List.forall_mem_cons] at hhead
    rw [List.cons_append] at h
    obtain ⟨start?', hscan, hkept⟩ :=
      ih (if l.isFiller then start? else start?.or (some index)) h.tail hhead.2
    refine ⟨start?', ?_, ?_⟩
    · rw [scan_step inAtRule start? h hhead.1, hscan, flatten_cons, List.length_append, Nat.add_assoc]
    · rintro p rfl
      exact hkept p (by simp)

/-- A prelude begins with its first lexeme, or at the mark behind it if it has none. -/
theorem scan_prelude (inAtRule : Bool) (h : Stands css stop index (head ++ ls))
    (hhead : ∀ l ∈ head, l.endsPrelude = false) (hfirst : ∀ l ∈ head.head?, l.isFiller = false) :
    ∃ start?, scan css inAtRule stop none index =
        scan css inAtRule stop start? (index + (flatten head).length) ∧
      start?.getD (index + (flatten head).length) = index := by
  cases head with
  | nil => exact ⟨none, rfl, rfl⟩
  | cons l head =>
    rw [List.forall_mem_cons] at hhead
    have hl : l.isFiller = false := hfirst l rfl
    rw [List.cons_append] at h
    obtain ⟨start?, hscan, hkept⟩ := scan_head inAtRule (some index) h.tail hhead.2
    refine ⟨start?, ?_, ?_⟩
    · rw [scan_step inAtRule none h hhead.1, hl, flatten_cons, List.length_append, ← Nat.add_assoc]
      exact hscan
    · rw [hkept index rfl]
      rfl

/-- A brace that is left open is closed further on. -/
theorem exists_cutBody? (h : nesting? (depth + 1) ls = some 0) : ∃ r, cutBody? depth ls = some r := by
  fun_induction cutBody? depth ls with
  | case1 depth => simp at h
  | case2 depth ls ih =>
    rw [nesting?_open] at h
    obtain ⟨r, hr⟩ := ih h
    exact ⟨_, by rw [hr]; rfl⟩
  | case3 ls ho => exact ⟨_, rfl⟩
  | case4 ls depth ho ih =>
    rw [nesting?_close] at h
    obtain ⟨r, hr⟩ := ih h
    exact ⟨_, by rw [hr]; rfl⟩
  | case5 depth l ls ho hc ih =>
    rw [nesting?_skip _ _ ho hc] at h
    obtain ⟨r, hr⟩ := ih h
    exact ⟨_, by rw [hr]; rfl⟩

/-- In a balanced body no brace is left open. -/
theorem not_balanced_of_unclosed {after : List Lexeme} (hhead : ∀ l ∈ head, l.endsPrelude = false)
    (hnone : cutBody? 0 after = none) : ¬ Css.Balanced (head ++ .single '{' :: after) := by
  intro h
  rw [Css.Balanced, nesting?_append, nesting?_head 0 hhead, Option.bind_some, nesting?_open] at h
  obtain ⟨r, hr⟩ := exists_cutBody? h
  rw [hnone] at hr
  cases hr

/-- A brace that is not closed ends the reading, which is no failure outside at-rules. -/
theorem scan_unclosed (start? : Option Nat) (h : Stands css stop index (.single '{' :: ls))
    (hnone : cutBody? 0 ls = none) : scan css false stop start? index = .ok [] := by
  rcases lexemeAt_eq h with ⟨hahead, hread⟩
  rw [scan, if_pos h.lt, hread, ok_bind]
  simp only [if_pos, blockEnd_of_none h.tail hnone, ok_bind]
  rfl

/-- A block that is closed is collected, or the blocks in it are, and the reading goes on behind it. -/
theorem scan_brace (inAtRule : Bool) (start? : Option Nat) {body next : List Lexeme} {prelude : Text}
    (h : Stands css stop index (.single '{' :: (body ++ .single '}' :: next))) (hbody : Css.Balanced body)
    (hprelude : Text.trim (withoutComments (css.extract (start?.getD index) index)) = prelude) :
    scan css inAtRule stop start? index = (do
      let found ←
        if prelude.head? = some '@' then
          scan css true (index + 1 + (flatten body).length) none (index + 1)
        else pure [⟨prelude, flatten body, start?.getD index, index + (flatten body).length + 2⟩]
      let rest ← scan css inAtRule stop none (index + (flatten body).length + 2)
      return found ++ rest) := by
  rcases lexemeAt_eq h with ⟨hahead, hread⟩
  have hinside : Stands css stop (index + 1) (body ++ .single '}' :: next) := h.tail
  obtain ⟨close, hclose, hend⟩ := blockEnd_of_some hinside (cutBody?_eq_some.2 ⟨rfl, hbody⟩)
  have hbehind : index < close.1 + 1 ∧ close.1 + 1 ≤ stop := ⟨by omega, close.2⟩
  have hforward : forward index (close.1 + 1) stop = .ok ⟨close.1 + 1, hbehind⟩ := forward_eq _ rfl
  have hstrip := strip_eq (css.extract (start?.getD index) index)
  have htext : css.extract (index + 1) close.1 = flatten body := by
    rw [hclose]
    exact hinside.extract_eq
  have hlast : index + (flatten body).length + 2 = close.1 + 1 := by omega
  rw [scan, if_pos h.lt, hread, ok_bind]
  simp only [if_pos, Lexeme.text_single, List.length_singleton, hend, ok_bind, hforward, hstrip,
    hprelude, htext]
  rw [← hclose, hlast]

/-- The prelude is what shows of the head. -/
theorem prelude_of_stands {start? : Option Nat} (h : Stands css stop index (head ++ ls))
    (hstart : start?.getD (index + (flatten head).length) = index) :
    Text.trim (withoutComments (css.extract (start?.getD (index + (flatten head).length))
      (index + (flatten head).length))) = Text.trim (visible head) := by
  have hlexed : lex (flatten head) = head := h.lexed.of_append_left
  rw [hstart, h.extract_eq, withoutComments, hlexed]

/-- The body of a block stands up to the closing brace, and what is behind the block behind it. -/
theorem stands_block {body next : List Lexeme}
    (h : Stands css stop index (head ++ .single '{' :: (body ++ .single '}' :: next))) :
    Stands css (index + (flatten head).length + 1 + (flatten body).length)
        (index + (flatten head).length + 1) body ∧
      Stands css stop (index + (flatten head).length + (flatten body).length + 2) next := by
  have hinside : Stands css stop (index + (flatten head).length + 1) (body ++ .single '}' :: next) :=
    h.behind.tail
  have hlast : index + (flatten head).length + 1 + (flatten body).length + 1 =
      index + (flatten head).length + (flatten body).length + 2 := by omega
  exact ⟨hinside.before (by simp) (by simp), hlast ▸ hinside.behind.tail⟩

/-- Reading the blocks between an index and a bound does not fail, and finds those among the lexemes that
stand there. -/
theorem scan_of_stands (inAtRule : Bool) (h : Stands css stop index ls)
    (hbalanced : inAtRule = true → Css.Balanced ls) :
    scan css inAtRule stop none index = .ok (Css.scan index ls) := by
  induction ls using scan_induction generalizing inAtRule stop index with
  | filler l ls hl ih =>
    have hends := Lexeme.not_endsPrelude_of_isFiller hl
    have hbraces := Lexeme.ne_braces hends
    rw [scan_step inAtRule none h hends, if_pos hl, Css.scan_filler _ _ hl]
    refine ih inAtRule h.tail fun hin => ?_
    have hnesting := hbalanced hin
    rwa [Css.Balanced, nesting?_skip _ _ hbraces.1 hbraces.2] at hnesting
  | tail head hhead =>
    have hall : Stands css stop index (head ++ []) := by rwa [List.append_nil]
    obtain ⟨start?, hscan, -⟩ := scan_head inAtRule none hall hhead
    rw [hscan, scan_end inAtRule start? hall.behind, scan_tail _ hhead]
  | loose head mark after hhead hmark hopen ih =>
    obtain ⟨start?, hscan, -⟩ := scan_head inAtRule none h hhead
    have hafter : Stands css stop (index + (flatten head).length + 1) after := by
      have htail := h.behind.tail
      rwa [length_of_endsPrelude hmark] at htail
    rw [hscan, scan_loose inAtRule start? h.behind hmark hopen, Css.scan_loose _ hhead hmark hopen]
    refine ih inAtRule hafter fun hin => ?_
    -- the mark is a semicolon, since a closing brace would close none of the body
    have hnesting := hbalanced hin
    rw [Css.Balanced, nesting?_append, nesting?_head 0 hhead, Option.bind_some] at hnesting
    have hclose : mark ≠ .single '}' := by
      rintro rfl
      simp [nesting?] at hnesting
    rwa [nesting?_skip _ _ hopen hclose] at hnesting
  | unclosed head after hhead hnone =>
    -- in an at-rule the lexemes are balanced
    obtain rfl : inAtRule = false := by
      cases inAtRule with
      | false => rfl
      | true => exact absurd (hbalanced rfl) (not_balanced_of_unclosed hhead hnone)
    obtain ⟨start?, hscan, -⟩ := scan_head false none h hhead
    rw [hscan, scan_unclosed start? h.behind hnone, Css.scan_unclosed _ hhead hnone]
  | rule head body next hhead hfirst hbody hat ih =>
    rw [Css.Balanced, nesting?_rule 0 next hhead hbody] at hbalanced
    rw [Css.scan_rule _ hhead hfirst hbody hat]
    rw [List.append_assoc, List.cons_append] at h
    obtain ⟨start?, hscan, hstart⟩ := scan_prelude inAtRule h hhead hfirst
    obtain ⟨-, hnext⟩ := stands_block h
    rw [hscan, scan_brace inAtRule start? h.behind hbody (prelude_of_stands h hstart), if_neg hat,
      hstart, ih inAtRule hnext hbalanced]
    rfl
  | group head body next hhead hfirst hbody hat ihbody ihnext =>
    rw [Css.Balanced, nesting?_rule 0 next hhead hbody] at hbalanced
    rw [Css.scan_group _ hhead hfirst hbody hat]
    rw [List.append_assoc, List.cons_append] at h
    obtain ⟨start?, hscan, hstart⟩ := scan_prelude inAtRule h hhead hfirst
    obtain ⟨hinner, hnext⟩ := stands_block h
    rw [hscan, scan_brace inAtRule start? h.behind hbody (prelude_of_stands h hstart), if_pos hat,
      ihbody true hinner fun _ => hbody, ihnext inAtRule hnext hbalanced]
    rfl

-- lexemes that leave a brace open are no body of an at-rule, and reading them as one fails
example : (scan "a\x7b".toList true 2 none 0).isOk = false := by decide +kernel

/-- Reading the blocks of a stylesheet does not fail. -/
theorem blocks_eq (css : Text) : blocks css = .ok (Css.blocks css) :=
  scan_of_stands false (Stands.whole css) (by simp)

end Blocks

end GeneratedContent.Checked
