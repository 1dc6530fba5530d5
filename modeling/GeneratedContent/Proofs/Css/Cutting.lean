import GeneratedContent.Proofs.Css.Span

/-!
# Cutting rules out of a stylesheet

Rules are taken out together with their preludes and braces, at every depth. What is left reads as
the lexemes that were left (`Cut.lexed`), since a prelude only ever begins behind a blank, a closed
comment, a brace or a semicolon, and none of these can join with what comes next. Its braces are
those that were left (`Cut.nesting?_eq`), and its blocks are the blocks that were left, moved up
to where they now stand (`Cut.scan_eq_closeUp`).
-/

namespace GeneratedContent.Css

/-- Whether lexemes are left of others when the rules with doomed preludes are cut out. -/
inductive Cut (doomed : Text → Bool) : List Lexeme → List Lexeme → Prop where
  /-- A filler stays. -/
  | filler {l : Lexeme} {ls ks : List Lexeme} (hl : l.isFiller = true) (h : Cut doomed ls ks) :
    Cut doomed (l :: ls) (l :: ks)
  /-- A head without a mark stays. -/
  | tail {head : List Lexeme} (hhead : ∀ l ∈ head, l.endsPrelude = false) : Cut doomed head head
  /-- A head with a semicolon or a closing brace stays. -/
  | loose {head after ks : List Lexeme} {mark : Lexeme} (hhead : ∀ l ∈ head, l.endsPrelude = false)
    (hmark : mark.endsPrelude = true) (hopen : mark ≠ .single '{') (h : Cut doomed after ks) :
    Cut doomed (head ++ mark :: after) (head ++ mark :: ks)
  /-- What stands from a head with an unclosed brace on stays. -/
  | unclosed {head after : List Lexeme} (hhead : ∀ l ∈ head, l.endsPrelude = false)
    (hnone : cutBody? 0 after = none) :
    Cut doomed (head ++ .single '{' :: after) (head ++ .single '{' :: after)
  /-- A rule whose prelude is not doomed stays. -/
  | kept {head body next ks : List Lexeme} (hhead : ∀ l ∈ head, l.endsPrelude = false)
    (hfirst : ∀ l ∈ head.head?, l.isFiller = false) (hbody : Balanced body)
    (hat : (Text.trim (visible head)).head? ≠ some '@')
    (hdoomed : doomed (Text.trim (visible head)) = false) (h : Cut doomed next ks) :
    Cut doomed (head ++ .single '{' :: body ++ .single '}' :: next)
      (head ++ .single '{' :: body ++ .single '}' :: ks)
  /-- A rule whose prelude is doomed goes. -/
  | dropped {head body next ks : List Lexeme} (hhead : ∀ l ∈ head, l.endsPrelude = false)
    (hfirst : ∀ l ∈ head.head?, l.isFiller = false) (hbody : Balanced body)
    (hat : (Text.trim (visible head)).head? ≠ some '@')
    (hdoomed : doomed (Text.trim (visible head)) = true) (h : Cut doomed next ks) :
    Cut doomed (head ++ .single '{' :: body ++ .single '}' :: next) ks
  /-- An at-rule stays, and rules are cut out of its body. -/
  | group {head body inner next ks : List Lexeme} (hhead : ∀ l ∈ head, l.endsPrelude = false)
    (hfirst : ∀ l ∈ head.head?, l.isFiller = false) (hbody : Balanced body)
    (hat : (Text.trim (visible head)).head? = some '@') (hinner : Cut doomed body inner)
    (h : Cut doomed next ks) :
    Cut doomed (head ++ .single '{' :: body ++ .single '}' :: next)
      (head ++ .single '{' :: inner ++ .single '}' :: ks)

variable {doomed : Text → Bool}

/-- Rules can be cut out of any lexemes. -/
theorem exists_cut (doomed : Text → Bool) (ls : List Lexeme) : ∃ ks, Cut doomed ls ks := by
  induction ls using scan_induction with
  | filler l ls hl ih =>
    rcases ih with ⟨ks, h⟩
    exact ⟨l :: ks, Cut.filler hl h⟩
  | tail head hhead => exact ⟨head, Cut.tail hhead⟩
  | loose head mark after hhead hmark hopen ih =>
    rcases ih with ⟨ks, h⟩
    exact ⟨head ++ mark :: ks, Cut.loose hhead hmark hopen h⟩
  | unclosed head after hhead hnone => exact ⟨_, Cut.unclosed hhead hnone⟩
  | rule head body next hhead hfirst hbody hat ih =>
    rcases ih with ⟨ks, h⟩
    cases hd : doomed (Text.trim (visible head)) with
    | false => exact ⟨_, Cut.kept hhead hfirst hbody hat hd h⟩
    | true => exact ⟨ks, Cut.dropped hhead hfirst hbody hat hd h⟩
  | group head body next hhead hfirst hbody hat ihbody ihnext =>
    rcases ihbody with ⟨inner, hinner⟩
    rcases ihnext with ⟨ks, h⟩
    exact ⟨_, Cut.group hhead hfirst hbody hat hinner h⟩

/-! ## What is left reads as it was -/

theorem sealed_of_endsPrelude {l : Lexeme} (h : l.endsPrelude = true) : l.Sealed := by
  rcases Lexeme.endsPrelude_iff.1 h with rfl | rfl | rfl
  · exact Lexeme.sealed_single (by decide) (by decide)
  · exact Lexeme.sealed_single (by decide) (by decide)
  · exact Lexeme.sealed_single (by decide) (by decide)

/-- A filler with text behind it asks for nothing. -/
theorem sealed_of_isFiller {l : Lexeme} {next : Text} (hl : l.isFiller = true) (hne : next ≠ [])
    (h : l.Fits next) : l.Sealed := by
  cases l with
  | comment t => exact Lexeme.sealed_comment hne h
  | quoted t => simp [Lexeme.isFiller] at hl
  | single c =>
    have hb : isBlank c = true := hl
    refine Lexeme.sealed_single (Lexeme.fits_single.1 h).1 ?_
    rintro rfl
    exact absurd hb (by decide)

/-- What is left is part of what there was. -/
theorem Cut.sublist {ls ks : List Lexeme} (h : Cut doomed ls ks) : ks.Sublist ls := by
  induction h with
  | filler hl h ih => exact ih.cons_cons _
  | tail hhead => exact List.Sublist.refl _
  | loose hhead hmark hopen h ih => exact (ih.cons_cons _).append_left _
  | unclosed hhead hnone => exact List.Sublist.refl _
  | kept hhead hfirst hbody hat hd h ih => exact (ih.cons_cons _).append_left _
  | dropped hhead hfirst hbody hat hd h ih => exact (ih.cons _).trans (List.sublist_append_right _ _)
  | group hhead hfirst hbody hat hinner h ihinner ih =>
    exact ((ihinner.cons_cons _).append_left _).append (ih.cons_cons _)

theorem eq_nil_of_flatten {ls : List Lexeme} (h : Lexed ls) (hnil : flatten ls = []) : ls = [] := by
  have h' : lex [] = ls := by
    rw [← hnil]
    exact h
  simpa using h'.symm

/-- What is left of lexemes that read back reads back, whatever stands behind it. -/
theorem Cut.lexed_append {ls ks : List Lexeme} (h : Cut doomed ls ks) (rest : List Lexeme)
    (hlex : Lexed (ls ++ rest)) : Lexed (ks ++ rest) := by
  induction h generalizing rest with
  | @filler l ls ks hl h ih =>
    rcases lexed_cons.1 hlex with ⟨hfits, hls⟩
    -- a filler asks for nothing, except at the end of the text, where nothing is cut out
    by_cases hnil : flatten (ls ++ rest) = []
    · have hsub : (ks ++ rest).Sublist (ls ++ rest) := h.sublist.append (List.Sublist.refl _)
      have hboth : ls ++ rest = [] := eq_nil_of_flatten hls hnil
      rw [hboth] at hsub
      have hks : ks ++ rest = ls ++ rest := by
        rw [hboth]
        exact List.sublist_nil.1 hsub
      rw [List.cons_append, hks]
      exact hlex
    · exact lexed_cons.2 ⟨sealed_of_isFiller hl hnil hfits _, ih rest hls⟩
  | tail hhead => exact hlex
  | @loose head after ks mark hhead hmark hopen h ih =>
    rw [List.append_assoc, List.cons_append] at hlex ⊢
    -- what changes stands behind the mark, and the mark is sealed
    have hafter : Lexed (after ++ rest) := (lexed_cons.1 hlex.of_append).2
    exact hlex.exchange (sealed_of_endsPrelude hmark) (ih rest hafter)
  | unclosed hhead hnone => exact hlex
  | @kept head body next ks hhead hfirst hbody hat hd h ih =>
    rw [List.append_assoc, List.cons_append] at hlex ⊢
    have hnext : Lexed (next ++ rest) := (lexed_cons.1 hlex.of_append).2
    exact hlex.exchange (sealed_of_endsPrelude rfl) (ih rest hnext)
  | @dropped head body next ks hhead hfirst hbody hat hd h ih =>
    rw [List.append_assoc, List.cons_append] at hlex
    exact ih rest (lexed_cons.1 hlex.of_append).2
  | @group head body inner next ks hhead hfirst hbody hat hinner h ihinner ih =>
    have hlex' : Lexed (head ++ .single '{' :: (body ++ .single '}' :: (next ++ rest))) := by
      simpa using hlex
    -- first the body is exchanged, together with all behind it, then what is behind it alone
    have hin := ihinner (.single '}' :: (next ++ rest)) (lexed_cons.1 hlex'.of_append).2
    have hnext : Lexed (next ++ rest) := (lexed_cons.1 hin.of_append).2
    have hin' := hin.exchange (sealed_of_endsPrelude rfl) (ih rest hnext)
    have hall := hlex'.exchange (sealed_of_endsPrelude rfl) hin'
    simpa using hall

theorem Cut.lexed {ls ks : List Lexeme} (h : Cut doomed ls ks) (hlex : Lexed ls) : Lexed ks := by
  simpa using h.lexed_append [] (by simpa using hlex)

/-! ## What is left has the same braces -/

/-- What is left opens and closes braces as what there was did. -/
theorem Cut.nesting?_eq {ls ks : List Lexeme} (h : Cut doomed ls ks) (depth : Nat) :
    nesting? depth ks = nesting? depth ls := by
  induction h generalizing depth with
  | @filler l ls ks hl h ih =>
    have hl' : l.endsPrelude = false := Lexeme.not_endsPrelude_of_isFiller hl
    have hone : ∀ l' ∈ [l], l'.endsPrelude = false := by simpa using hl'
    have hcons : ∀ ls', nesting? depth (l :: ls') = nesting? depth ls' := by
      intro ls'
      rw [← List.singleton_append, nesting?_append, nesting?_head depth hone, Option.bind_some]
    rw [hcons, hcons, ih]
  | tail hhead => rfl
  | @loose head after ks mark hhead hmark hopen h ih =>
    rw [nesting?_append, nesting?_append, nesting?_head depth hhead, Option.bind_some,
      Option.bind_some]
    -- the mark may close a brace, and then both sides go on with one less
    simp only [nesting?, if_neg hopen]
    split
    · cases depth with
      | zero => rfl
      | succ depth => exact ih depth
    · exact ih depth
  | unclosed hhead hnone => rfl
  | kept hhead hfirst hbody hat hd h ih =>
    rw [nesting?_rule depth _ hhead hbody, nesting?_rule depth _ hhead hbody, ih]
  | dropped hhead hfirst hbody hat hd h ih => rw [nesting?_rule depth _ hhead hbody, ih]
  | group hhead hfirst hbody hat hinner h ihinner ih =>
    have hbody' : Balanced _ := (ihinner 0).trans hbody
    rw [nesting?_rule depth _ hhead hbody, nesting?_rule depth _ hhead hbody', ih]

/-! ## Where the blocks that are left stand -/

/-- A block that stands `n` characters further to the front. -/
def Block.movedUp (n : Nat) (b : Block) : Block :=
  { b with start := b.start - n, stop := b.stop - n }

/-- The number of characters that blocks take up. -/
def totalLength : List Block → Nat
  | [] => 0
  | b :: bs => (b.stop - b.start) + totalLength bs

/-- The doomed among blocks. -/
def doomedOnes (doomed : Text → Bool) (bs : List Block) : List Block :=
  bs.filter fun b => doomed b.prelude

/-- The blocks that are not doomed, each moved up by `shift` and by what was cut out before it. -/
def closeUp (doomed : Text → Bool) : (shift : Nat) → List Block → List Block
  | _, [] => []
  | shift, b :: bs =>
    if doomed b.prelude then closeUp doomed (shift + (b.stop - b.start)) bs
    else b.movedUp shift :: closeUp doomed shift bs

@[simp] theorem totalLength_nil : totalLength [] = 0 := rfl

@[simp] theorem totalLength_cons (b : Block) (bs : List Block) :
    totalLength (b :: bs) = (b.stop - b.start) + totalLength bs := rfl

@[simp] theorem totalLength_append (as bs : List Block) :
    totalLength (as ++ bs) = totalLength as + totalLength bs := by
  induction as with
  | nil => simp
  | cons a as ih => simp [ih, Nat.add_assoc]

@[simp] theorem doomedOnes_append (as bs : List Block) :
    doomedOnes doomed (as ++ bs) = doomedOnes doomed as ++ doomedOnes doomed bs := by
  simp [doomedOnes]

theorem doomedOnes_cons (b : Block) (bs : List Block) :
    doomedOnes doomed (b :: bs) =
      if doomed b.prelude then b :: doomedOnes doomed bs else doomedOnes doomed bs := by
  simp [doomedOnes, List.filter_cons]

theorem closeUp_append (shift : Nat) (as bs : List Block) :
    closeUp doomed shift (as ++ bs) =
      closeUp doomed shift as ++
        closeUp doomed (shift + totalLength (doomedOnes doomed as)) bs := by
  induction as generalizing shift with
  | nil => simp [closeUp, doomedOnes]
  | cons a as ih =>
    rw [List.cons_append, closeUp, closeUp, doomedOnes_cons]
    cases hd : doomed a.prelude with
    | true => simp [ih, Nat.add_assoc]
    | false => simp [ih]

theorem Within.totalLength_le {lo hi : Nat} {bs : List Block} (h : Within lo hi bs)
    (hle : lo ≤ hi) : lo + totalLength bs ≤ hi := by
  induction bs generalizing lo with
  | nil => exact hle
  | cons b bs ih =>
    have hb := h.bounds b List.mem_cons_self
    have hbs := ih h.of_cons hb.2.2
    rw [totalLength_cons]
    omega

/-- What was cut out is what is missing. -/
theorem Cut.length_add {ls ks : List Lexeme} (h : Cut doomed ls ks) (offset : Nat) :
    (flatten ks).length + totalLength (doomedOnes doomed (scan offset ls)) =
      (flatten ls).length := by
  induction h generalizing offset with
  | @filler l ls ks hl h ih =>
    rw [scan_filler _ _ hl, flatten_cons, flatten_cons, List.length_append, List.length_append,
      ← ih (offset + l.text.length)]
    omega
  | tail hhead =>
    rw [scan_tail _ hhead]
    rfl
  | @loose head after ks mark hhead hmark hopen h ih =>
    rw [scan_loose _ hhead hmark hopen]
    have hlen := ih (offset + (flatten head).length + 1)
    simp
    omega
  | unclosed hhead hnone =>
    rw [scan_unclosed _ hhead hnone]
    rfl
  | @kept head body next ks hhead hfirst hbody hat hd h ih =>
    rw [scan_rule _ hhead hfirst hbody hat, doomedOnes_cons, if_neg (by simp [hd])]
    have hlen := ih (offset + (flatten head).length + (flatten body).length + 2)
    simp
    omega
  | @dropped head body next ks hhead hfirst hbody hat hd h ih =>
    -- the rule itself is missing too
    rw [scan_rule _ hhead hfirst hbody hat, doomedOnes_cons, if_pos hd, totalLength_cons]
    have hlen := ih (offset + (flatten head).length + (flatten body).length + 2)
    simp
    omega
  | @group head body inner next ks hhead hfirst hbody hat hinner h ihinner ih =>
    rw [scan_group _ hhead hfirst hbody hat, doomedOnes_append, totalLength_append]
    have hin := ihinner (offset + (flatten head).length + 1)
    have hlen := ih (offset + (flatten head).length + (flatten body).length + 2)
    simp
    omega

/-- The blocks of what is left are those that are left. -/
theorem Cut.scan_eq_closeUp {ls ks : List Lexeme} (h : Cut doomed ls ks) (offset shift : Nat) :
    scan offset ks = closeUp doomed shift (scan (offset + shift) ls) := by
  induction h generalizing offset shift with
  | @filler l ls ks hl h ih =>
    rw [scan_filler _ _ hl, scan_filler _ _ hl, ih _ shift, Nat.add_right_comm]
  | tail hhead =>
    rw [scan_tail _ hhead, scan_tail _ hhead]
    rfl
  | @loose head after ks mark hhead hmark hopen h ih =>
    rw [scan_loose _ hhead hmark hopen, scan_loose _ hhead hmark hopen, ih _ shift]
    congr 2
    omega
  | unclosed hhead hnone =>
    rw [scan_unclosed _ hhead hnone, scan_unclosed _ hhead hnone]
    rfl
  | @kept head body next ks hhead hfirst hbody hat hd h ih =>
    rw [scan_rule _ hhead hfirst hbody hat, scan_rule _ hhead hfirst hbody hat, closeUp,
      if_neg (by simp [hd]), ih _ shift]
    congr 1
    · simp only [Block.movedUp, Block.mk.injEq, true_and]
      omega
    · congr 2
      omega
  | @dropped head body next ks hhead hfirst hbody hat hd h ih =>
    -- what follows moves up to where the rule began, so by the length of the rule more
    rw [scan_rule _ hhead hfirst hbody hat, closeUp, if_pos hd,
      ih offset (shift + ((flatten head).length + (flatten body).length + 2))]
    congr 2
    · show (flatten head).length + (flatten body).length + 2 =
        offset + shift + (flatten head).length + (flatten body).length + 2 - (offset + shift)
      omega
    · omega
  | @group head body inner next ks hhead hfirst hbody hat hinner h ihinner ih =>
    -- what is cut out of the body moves up all that stands behind it
    have hinner' : Balanced inner := (hinner.nesting?_eq 0).trans hbody
    have hlen := hinner.length_add (offset + shift + (flatten head).length + 1)
    rw [scan_group _ hhead hfirst hinner' hat, scan_group _ hhead hfirst hbody hat, closeUp_append,
      ihinner _ shift, ih _ (shift + totalLength (doomedOnes doomed
        (scan (offset + shift + (flatten head).length + 1) body)))]
    congr 1
    · congr 2
      omega
    · congr 2
      omega

/-- How much of the doomed blocks stands before an offset. -/
def doomedBefore (doomed : Text → Bool) (bs : List Block) (offset : Nat) : Nat :=
  totalLength ((doomedOnes doomed bs).filter fun b => b.stop ≤ offset)

/-- The blocks that are left, each moved up by the length of the doomed blocks before it. -/
theorem closeUp_eq_map {lo hi : Nat} {bs : List Block} (h : Within lo hi bs) (shift : Nat) :
    closeUp doomed shift bs =
      (bs.filter fun b => !doomed b.prelude).map fun b =>
        b.movedUp (shift + doomedBefore doomed bs b.start) := by
  induction bs generalizing lo shift with
  | nil => rfl
  | cons b bs ih =>
    have hbs := h.of_cons
    have hb := h.bounds b List.mem_cons_self
    cases hd : doomed b.prelude with
    | true =>
      -- the doomed block stands before all others
      rw [closeUp, if_pos hd, ih hbs, List.filter_cons_of_neg (by simp [hd])]
      apply List.map_congr_left
      intro b' hb'
      have hstop : b.stop ≤ b'.start := (hbs.bounds b' ((List.mem_filter.1 hb').1)).1
      simp [doomedBefore, doomedOnes_cons, hd, hstop, Nat.add_assoc]
    | false =>
      -- no block stands before the first one, and it does not count for the others
      have hnone : doomedBefore doomed (b :: bs) b.start = 0 := by
        have hempty : (doomedOnes doomed (b :: bs)).filter (fun b' => b'.stop ≤ b.start) = [] := by
          rw [List.filter_eq_nil_iff]
          intro b' hb'
          rw [doomedOnes_cons, if_neg (by simp [hd])] at hb'
          have h' := hbs.bounds b' ((List.mem_filter.1 hb').1)
          simp
          omega
        rw [doomedBefore, hempty, totalLength_nil]
      have hsame : ∀ offset, doomedBefore doomed (b :: bs) offset = doomedBefore doomed bs offset := by
        intro offset
        rw [doomedBefore, doomedOnes_cons, if_neg (by simp [hd]), doomedBefore]
      rw [closeUp, if_neg (by simp [hd]), ih hbs, List.filter_cons_of_pos (by simp [hd]),
        List.map_cons, hnone]
      simp [hsame]

/-! ## The text that is left -/

/-- The characters of a text, standing at an offset, that lie in none of the spans. -/
def outside (offset : Nat) (spans : List (Nat × Nat)) (s : Text) : Text :=
  ((s.zipIdx offset).filter fun e => spans.all fun span => e.2 < span.1 || span.2 ≤ e.2).map
    Prod.fst

/-- The span that a block takes up. -/
def Block.span (b : Block) : Nat × Nat := (b.start, b.stop)

theorem outside_append (offset : Nat) (spans : List (Nat × Nat)) (s t : Text) :
    outside offset spans (s ++ t) =
      outside offset spans s ++ outside (offset + s.length) spans t := by
  simp [outside, List.zipIdx_append]

/-- Only spans that reach into the text matter. -/
theorem outside_congr {offset : Nat} {spans spans' : List (Nat × Nat)} {s : Text}
    (h : ∀ i, offset ≤ i → i < offset + s.length →
      ((∀ span ∈ spans, i < span.1 ∨ span.2 ≤ i) ↔ ∀ span ∈ spans', i < span.1 ∨ span.2 ≤ i)) :
    outside offset spans s = outside offset spans' s := by
  unfold outside
  congr 1
  apply List.filter_congr
  intro e he
  rcases e with ⟨c, i⟩
  have hi := List.mem_zipIdx he
  have h' := h i hi.1 (by omega)
  rw [Bool.eq_iff_iff]
  simpa using h'

/-- Spans that end before a text do not matter. -/
theorem outside_of_before {offset : Nat} {spans : List (Nat × Nat)} (spans' : List (Nat × Nat))
    {s : Text} (h : ∀ span ∈ spans, span.2 ≤ offset) :
    outside offset (spans ++ spans') s = outside offset spans' s := by
  apply outside_congr
  intro i hlo hhi
  have hbefore : ∀ span ∈ spans, i < span.1 ∨ span.2 ≤ i := by
    intro span hspan
    exact Or.inr (Nat.le_trans (h span hspan) hlo)
  constructor
  · intro hall span hspan
    exact hall span (List.mem_append_right _ hspan)
  · intro hall span hspan
    rcases List.mem_append.1 hspan with hs | hs
    · exact hbefore span hs
    · exact hall span hs

/-- Spans that begin behind a text do not matter. -/
theorem outside_of_behind {offset : Nat} (spans : List (Nat × Nat)) {spans' : List (Nat × Nat)}
    {s : Text} (h : ∀ span ∈ spans', offset + s.length ≤ span.1) :
    outside offset (spans ++ spans') s = outside offset spans s := by
  apply outside_congr
  intro i hlo hhi
  have hbehind : ∀ span ∈ spans', i < span.1 ∨ span.2 ≤ i := by
    intro span hspan
    exact Or.inl (Nat.lt_of_lt_of_le hhi (h span hspan))
  constructor
  · intro hall span hspan
    exact hall span (List.mem_append_left _ hspan)
  · intro hall span hspan
    rcases List.mem_append.1 hspan with hs | hs
    · exact hall span hs
    · exact hbehind span hs

@[simp] theorem outside_nil_spans (offset : Nat) (s : Text) : outside offset [] s = s := by
  have hall : (s.zipIdx offset).filter (fun _ => true) = s.zipIdx offset :=
    List.filter_eq_self.2 fun _ _ => rfl
  simp [outside, hall]

/-- Spans that begin behind a text leave it whole. -/
theorem outside_eq_self {offset : Nat} {spans : List (Nat × Nat)} {s : Text}
    (h : ∀ span ∈ spans, offset + s.length ≤ span.1) : outside offset spans s = s := by
  have hnil := outside_of_behind [] h
  rwa [List.nil_append, outside_nil_spans] at hnil

/-- A text that all spans begin behind stays in front of what is left. -/
theorem outside_front {offset : Nat} {spans : List (Nat × Nat)} (s t : Text)
    (h : ∀ span ∈ spans, offset + s.length ≤ span.1) :
    outside offset spans (s ++ t) = s ++ outside (offset + s.length) spans t := by
  rw [outside_append, outside_eq_self h]

/-- A span over a text leaves nothing of it. -/
theorem outside_eq_nil {offset : Nat} {spans : List (Nat × Nat)} {s : Text} {span : Nat × Nat}
    (hmem : span ∈ spans) (hlo : span.1 ≤ offset) (hhi : offset + s.length ≤ span.2) :
    outside offset spans s = [] := by
  unfold outside
  rw [List.map_eq_nil_iff, List.filter_eq_nil_iff]
  intro e he hall
  rcases e with ⟨c, i⟩
  have hi := List.mem_zipIdx he
  simp only [List.all_eq_true, Bool.or_eq_true, decide_eq_true_eq] at hall
  have hs := hall span hmem
  omega

/-- Up to the end of the first span, the text before it is what is left. -/
theorem outside_cons {offset lo hi : Nat} {spans : List (Nat × Nat)} {s : Text} (hlo : offset ≤ lo)
    (hle : lo ≤ hi) (hhi : hi ≤ offset + s.length) (hspans : ∀ span ∈ spans, hi ≤ span.1) :
    outside offset ((lo, hi) :: spans) s =
      s.take (lo - offset) ++ outside hi spans (s.drop (hi - offset)) := by
  -- the text before the span, the text under it, and the text behind it
  have hsplit : s = s.take (lo - offset) ++
      ((s.drop (lo - offset)).take (hi - lo) ++ s.drop (hi - offset)) := by
    have hdrop : s.drop (hi - offset) = (s.drop (lo - offset)).drop (hi - lo) := by
      rw [List.drop_drop]
      congr 1
      omega
    rw [hdrop, List.take_append_drop, List.take_append_drop]
  have hfront : offset + (s.take (lo - offset)).length = lo := by
    rw [List.length_take]
    omega
  have hunder : lo + ((s.drop (lo - offset)).take (hi - lo)).length = hi := by
    rw [List.length_take, List.length_drop]
    omega
  have hall : ∀ span ∈ (lo, hi) :: spans, lo ≤ span.1 := by
    intro span hspan
    rcases List.mem_cons.1 hspan with rfl | hspan
    · exact Nat.le_refl _
    · exact Nat.le_trans hle (hspans span hspan)
  have hgone : outside lo ((lo, hi) :: spans) ((s.drop (lo - offset)).take (hi - lo)) = [] :=
    outside_eq_nil List.mem_cons_self (Nat.le_refl _) (Nat.le_of_eq hunder)
  have hbehind : outside hi ([(lo, hi)] ++ spans) (s.drop (hi - offset)) =
      outside hi spans (s.drop (hi - offset)) := by
    apply outside_of_before
    intro span hspan
    rcases List.mem_singleton.1 hspan with rfl
    exact Nat.le_refl _
  have hcut := congrArg (outside offset ((lo, hi) :: spans)) hsplit
  rw [outside_front _ _ (by rw [hfront]; exact hall), hfront, outside_append, hunder, hgone,
    List.nil_append] at hcut
  rw [hcut, ← hbehind, List.singleton_append]

/-- The spans of the doomed blocks. -/
def doomedSpans (doomed : Text → Bool) (bs : List Block) : List (Nat × Nat) :=
  (doomedOnes doomed bs).map Block.span

@[simp] theorem doomedSpans_append (as bs : List Block) :
    doomedSpans doomed (as ++ bs) = doomedSpans doomed as ++ doomedSpans doomed bs := by
  simp [doomedSpans]

theorem doomedSpans_cons_kept {b : Block} (bs : List Block) (hd : doomed b.prelude = false) :
    doomedSpans doomed (b :: bs) = doomedSpans doomed bs := by
  rw [doomedSpans, doomedOnes_cons, if_neg (by simp [hd]), doomedSpans]

theorem doomedSpans_cons_doomed {b : Block} (bs : List Block) (hd : doomed b.prelude = true) :
    doomedSpans doomed (b :: bs) = [b.span] ++ doomedSpans doomed bs := by
  rw [doomedSpans, doomedOnes_cons, if_pos hd, List.map_cons, List.singleton_append, doomedSpans]

theorem doomedSpans_bounds (doomed : Text → Bool) (offset : Nat) (ls : List Lexeme) :
    ∀ span ∈ doomedSpans doomed (scan offset ls),
      offset ≤ span.1 ∧ span.2 ≤ offset + (flatten ls).length := by
  intro span hspan
  rcases List.mem_map.1 hspan with ⟨b, hb, rfl⟩
  have hmem : b ∈ scan offset ls := (List.mem_filter.1 hb).1
  have h := (scan_within offset ls).bounds b hmem
  exact ⟨h.1, h.2.2⟩

/-- The text of a head and of a body in braces. -/
def ruleText (head body : List Lexeme) : Text := flatten head ++ '{' :: flatten body ++ ['}']

theorem flatten_rule (head body next : List Lexeme) :
    flatten (head ++ .single '{' :: body ++ .single '}' :: next) =
      ruleText head body ++ flatten next := by
  simp [ruleText]

theorem length_ruleText (offset : Nat) (head body : List Lexeme) :
    offset + (ruleText head body).length =
      offset + (flatten head).length + (flatten body).length + 2 := by
  simp [ruleText]
  omega

/-- Where some spans lie between the braces of a rule and the others behind it, the head and the
braces of the rule stay. -/
theorem outside_braces {offset : Nat} {inner outer : List (Nat × Nat)}
    (head body next : List Lexeme)
    (hin : ∀ span ∈ inner, offset + (flatten head).length + 1 ≤ span.1 ∧
      span.2 ≤ offset + (flatten head).length + 1 + (flatten body).length)
    (hout : ∀ span ∈ outer, offset + (flatten head).length + (flatten body).length + 2 ≤ span.1) :
    outside offset (inner ++ outer)
        (flatten (head ++ .single '{' :: body ++ .single '}' :: next)) =
      (flatten head ++ ['{']) ++
        (outside (offset + (flatten head).length + 1) inner (flatten body) ++ (['}'] ++
          outside (offset + (flatten head).length + (flatten body).length + 2) outer
            (flatten next))) := by
  have hsplit : flatten (head ++ .single '{' :: body ++ .single '}' :: next) =
      (flatten head ++ ['{']) ++ (flatten body ++ (['}'] ++ flatten next)) := by
    simp
  have hopen : offset + (flatten head ++ ['{']).length = offset + (flatten head).length + 1 := by
    simp [Nat.add_assoc]
  have hclose : offset + (flatten head).length + 1 + (flatten body).length + ['}'].length =
      offset + (flatten head).length + (flatten body).length + 2 := by
    simp
    omega
  rw [hsplit, outside_front, hopen, outside_append, outside_of_behind, outside_of_before,
    outside_front, hclose]
  · intro span hspan
    rw [hclose]
    exact hout span hspan
  · intro span hspan
    exact (hin span hspan).2
  · intro span hspan
    have h := hout span hspan
    omega
  · intro span hspan
    rw [hopen]
    rcases List.mem_append.1 hspan with hspan | hspan
    · exact (hin span hspan).1
    · have h := hout span hspan
      omega

/-- What is left is the text outside the doomed blocks. -/
theorem Cut.flatten_eq_outside {ls ks : List Lexeme} (h : Cut doomed ls ks) (offset : Nat) :
    flatten ks = outside offset (doomedSpans doomed (scan offset ls)) (flatten ls) := by
  induction h generalizing offset with
  | @filler l ls ks hl h ih =>
    rw [scan_filler _ _ hl, flatten_cons, flatten_cons, outside_front, ← ih]
    intro span hspan
    exact (doomedSpans_bounds _ _ _ span hspan).1
  | tail hhead =>
    rw [scan_tail _ hhead]
    exact (outside_nil_spans _ _).symm
  | @loose head after ks mark hhead hmark hopen h ih =>
    have hsplit : ∀ ls', flatten (head ++ mark :: ls') = (flatten head ++ mark.text) ++ flatten ls' := by
      intro ls'
      simp
    have hlen : offset + (flatten head ++ mark.text).length = offset + (flatten head).length + 1 := by
      simp [length_of_endsPrelude hmark, Nat.add_assoc]
    rw [scan_loose _ hhead hmark hopen, hsplit, hsplit, outside_front, hlen, ← ih]
    intro span hspan
    rw [hlen]
    exact (doomedSpans_bounds _ _ _ span hspan).1
  | unclosed hhead hnone =>
    rw [scan_unclosed _ hhead hnone]
    exact (outside_nil_spans _ _).symm
  | @kept head body next ks hhead hfirst hbody hat hd h ih =>
    rw [scan_rule _ hhead hfirst hbody hat, doomedSpans_cons_kept _ hd, flatten_rule, flatten_rule,
      outside_front, length_ruleText, ← ih]
    intro span hspan
    rw [length_ruleText]
    exact (doomedSpans_bounds _ _ _ span hspan).1
  | @dropped head body next ks hhead hfirst hbody hat hd h ih =>
    rw [scan_rule _ hhead hfirst hbody hat, doomedSpans_cons_doomed _ hd, flatten_rule,
      outside_append, length_ruleText]
    -- the span of the rule leaves nothing of it, and it does not reach further
    have hrule : ∀ spans, outside offset ([(offset,
        offset + (flatten head).length + (flatten body).length + 2)] ++ spans)
        (ruleText head body) = [] := by
      intro spans
      exact outside_eq_nil (List.mem_append_left _ List.mem_cons_self) (Nat.le_refl _)
        (Nat.le_of_eq (length_ruleText offset head body))
    rw [Block.span, hrule, List.nil_append, outside_of_before, ← ih]
    intro span hspan
    rcases List.mem_singleton.1 hspan with rfl
    exact Nat.le_refl _
  | @group head body inner next ks hhead hfirst hbody hat hinner h ihinner ih =>
    -- the spans of the body lie between the braces, those of the rest behind them
    have hin := doomedSpans_bounds doomed (offset + (flatten head).length + 1) body
    have hout := doomedSpans_bounds doomed
      (offset + (flatten head).length + (flatten body).length + 2) next
    rw [scan_group _ hhead hfirst hbody hat, doomedSpans_append,
      outside_braces head body next hin fun span hspan => (hout span hspan).1, ← ihinner, ← ih]
    simp

end GeneratedContent.Css
