import GeneratedContent.Css.Split
import GeneratedContent.Proofs.Css.Lexing

/-!
# Joining pieces

Pieces that are joined with separators between them are the pieces of the whole text just when each
of them is one piece by itself and all but the last leave nothing open (`pieces_intercalate_iff`).
Something is left open if a separator behind it does not separate: a bracket, a string or a comment.
-/

namespace GeneratedContent.Css

/-! ## Pieces -/

/-- How many brackets are open behind a lexeme. -/
def Lexeme.depthAfter (depth : Nat) : Lexeme → Nat
  | .single c =>
    if isOpener c then depth + 1 else if isCloser c ∧ 0 < depth then depth - 1 else depth
  | _ => depth

section Pieces

variable {sep : Char} {depth : Nat} {l : Lexeme} {ls as bs : List Lexeme}

theorem splitLexemes_separator (hsep : isOpener sep = false) (ls : List Lexeme) :
    splitLexemes sep 0 (.single sep :: ls) = [] :: splitLexemes sep 0 ls := by
  rw [splitLexemes, if_neg (by simp [hsep]), if_neg (by simp), if_pos ⟨rfl, rfl⟩]

theorem splitLexemes_cons (h : ¬ (l = .single sep ∧ depth = 0)) (ls : List Lexeme) :
    splitLexemes sep depth (l :: ls) =
      Text.attach l.text (splitLexemes sep (l.depthAfter depth) ls) := by
  cases l with
  | comment t =>
    rw [splitLexemes]
    · rfl
    · simp
  | quoted t =>
    rw [splitLexemes]
    · rfl
    · simp
  | single c =>
    have hc : ¬ (c = sep ∧ depth = 0) := fun e => h ⟨by rw [e.1], e.2⟩
    rw [splitLexemes, Lexeme.depthAfter]
    split
    · rfl
    · split <;> rfl

theorem splitLexemes_ne_nil (sep : Char) (depth : Nat) (ls : List Lexeme) :
    splitLexemes sep depth ls ≠ [] := by
  fun_cases splitLexemes sep depth ls <;> simp

/-- A text that is put in front of the first piece comes in front of all that is joined. -/
theorem intercalate_attach (sep t : Text) {pieces : List Text} (h : pieces ≠ []) :
    List.intercalate sep (Text.attach t pieces) = t ++ List.intercalate sep pieces := by
  rcases List.exists_cons_of_ne_nil h with ⟨p, pieces, rfl⟩
  cases pieces with
  | nil => simp [Text.attach]
  | cons q pieces => simp [Text.attach, List.intercalate_cons_cons]

/-- At an opening bracket nothing is split. -/
theorem splitLexemes_of_isOpener (hsep : isOpener sep = true) (depth : Nat) (ls : List Lexeme) :
    splitLexemes sep depth ls = [flatten ls] := by
  induction ls generalizing depth with
  | nil => rfl
  | cons l ls ih =>
    by_cases h : l = .single sep ∧ depth = 0
    · rw [h.1, splitLexemes, if_pos hsep, ih]
      rfl
    · rw [splitLexemes_cons h, ih, flatten_cons]
      rfl

/-- The pieces of lexemes, joined again, are their text. -/
theorem intercalate_splitLexemes (sep : Char) (depth : Nat) (ls : List Lexeme) :
    List.intercalate [sep] (splitLexemes sep depth ls) = flatten ls := by
  cases hsep : isOpener sep with
  | true => rw [splitLexemes_of_isOpener hsep, List.intercalate_singleton]
  | false =>
    induction ls generalizing depth with
    | nil => simp [splitLexemes]
    | cons l ls ih =>
      by_cases h : l = .single sep ∧ depth = 0
      · rw [h.1, h.2, splitLexemes_separator hsep]
        rcases List.exists_cons_of_ne_nil (splitLexemes_ne_nil sep 0 ls) with ⟨p, pieces, hpieces⟩
        have hrest := ih 0
        rw [hpieces] at hrest ⊢
        rw [List.intercalate_cons_cons, hrest]
        rfl
      · rw [splitLexemes_cons h, intercalate_attach _ _ (splitLexemes_ne_nil _ _ _), ih,
          flatten_cons]

/-- What comes in front of the first separator is one piece, whatever follows the separator. -/
theorem exists_of_splitLexemes (hsep : isOpener sep = false) {piece p : Text} {pieces : List Text}
    (h : splitLexemes sep depth ls = piece :: p :: pieces) :
    ∃ as bs, ls = as ++ .single sep :: bs ∧ flatten as = piece ∧
      splitLexemes sep 0 bs = p :: pieces ∧ splitLexemes sep depth as = [piece] ∧
      ∀ cs, splitLexemes sep depth (as ++ .single sep :: cs) = piece :: splitLexemes sep 0 cs := by
  induction ls generalizing depth piece with
  | nil => exact absurd h (by simp [splitLexemes])
  | cons l ls ih =>
    by_cases hl : l = .single sep ∧ depth = 0
    · rcases hl with ⟨rfl, rfl⟩
      rw [splitLexemes_separator hsep] at h
      rcases List.cons.inj h with ⟨rfl, hls⟩
      exact ⟨[], ls, rfl, rfl, hls, rfl, fun cs => splitLexemes_separator hsep cs⟩
    · rw [splitLexemes_cons hl] at h
      rcases List.exists_cons_of_ne_nil (splitLexemes_ne_nil sep (l.depthAfter depth) ls) with
        ⟨rest, qs, hrest⟩
      rw [hrest] at h
      rcases List.cons.inj h with ⟨hpiece, rfl⟩
      rcases ih hrest with ⟨as, bs, rfl, hflat, hbs, has, hcs⟩
      refine ⟨l :: as, bs, rfl, ?_, hbs, ?_, ?_⟩
      · rw [flatten_cons, hflat, hpiece]
      · rw [splitLexemes_cons hl, has, ← hpiece]
        rfl
      · intro cs
        rw [List.cons_append, splitLexemes_cons hl, hcs, ← hpiece]
        rfl

end Pieces

/-! ## Pieces of texts -/

/-- Whether a text has no comments and is one piece. -/
structure Whole (sep : Char) (t : Text) : Prop where
  /-- It has no comments. -/
  plain : withoutComments t = t
  /-- It is one piece. -/
  piece : splitTopLevel sep t = [t]

/-- Whether a text leaves nothing open, so that a separator behind it separates. -/
def Ends (sep : Char) (t : Text) : Prop := splitTopLevel sep (t ++ [sep]) = [t, []]

instance (sep : Char) (t : Text) : Decidable (Ends sep t) :=
  inferInstanceAs (Decidable (_ = _))

section Texts

variable {sep : Char}

theorem intercalate_splitTopLevel (sep : Char) (s : Text) :
    List.intercalate [sep] (splitTopLevel sep s) = s :=
  (intercalate_splitLexemes sep 0 (lex s)).trans (flatten_lex s)

theorem visible_append (as bs : List Lexeme) : visible (as ++ bs) = visible as ++ visible bs := by
  simp [visible]

theorem length_visible_le (ls : List Lexeme) : (visible ls).length ≤ (flatten ls).length := by
  induction ls with
  | nil => exact Nat.le_refl _
  | cons l ls ih =>
    have hl : l.visible.length ≤ l.text.length := by cases l <;> simp [Lexeme.visible, Lexeme.text]
    simp only [visible, flatten, List.flatMap_cons, List.length_append] at ih ⊢
    omega

/-- If nothing is missing in the whole, nothing is missing in a part. -/
theorem visible_eq_flatten_of_append {as bs : List Lexeme}
    (h : visible (as ++ bs) = flatten (as ++ bs)) :
    visible as = flatten as ∧ visible bs = flatten bs := by
  rw [visible_append, flatten_append] at h
  have hlength := congrArg List.length h
  rw [List.length_append, List.length_append] at hlength
  have has := length_visible_le as
  have hbs := length_visible_le bs
  exact List.append_inj h (by omega)

/-- At a separator the lexemes of a text part into those of what comes before it and those of what
comes behind it, which may be exchanged. -/
theorem lex_seam (hsealed : (Lexeme.single sep).Sealed) {s : Text} {as bs : List Lexeme}
    (h : lex s = as ++ .single sep :: bs) :
    lex (flatten as) = as ∧ lex (flatten bs) = bs ∧
      ∀ y, lex (flatten as ++ sep :: y) = as ++ .single sep :: lex y := by
  have hlexed : Lexed (as ++ .single sep :: bs) := h ▸ lexed_lex s
  refine ⟨hlexed.of_append_left, (lexed_cons.1 hlexed.of_append).2, fun y => ?_⟩
  have hexchanged := hlexed.exchange hsealed (lexed_lex y)
  rw [Lexed, flatten_append, flatten_cons, flatten_lex] at hexchanged
  exact hexchanged

/-- A text and more text behind a separator are split into the text and the pieces of the other just when
the text is one piece and leaves nothing open. -/
theorem splitTopLevel_cons_iff (hsep : isOpener sep = false) (hsealed : (Lexeme.single sep).Sealed)
    {t y p : Text} {ps : List Text} :
    splitTopLevel sep (t ++ sep :: y) = t :: p :: ps ↔
      (splitTopLevel sep t = [t] ∧ Ends sep t) ∧ splitTopLevel sep y = p :: ps := by
  constructor
  · intro hpieces
    rcases exists_of_splitLexemes hsep hpieces with ⟨as, bs, hlex, rfl, hbs, has, hends⟩
    rcases lex_seam hsealed hlex with ⟨hlexas, hlexbs, hseam⟩
    obtain rfl : flatten bs = y := by
      have hflat := congrArg flatten hlex
      rw [flatten_lex, flatten_append, flatten_cons] at hflat
      simpa using hflat.symm
    refine ⟨⟨?_, ?_⟩, ?_⟩
    · rw [splitTopLevel, hlexas, has]
    · rw [Ends, splitTopLevel, hseam [], hends, lex_nil]
      rfl
    · rw [splitTopLevel, hlexbs, hbs]
  · rintro ⟨⟨-, hends⟩, hpieces⟩
    rcases exists_of_splitLexemes hsep hends with ⟨as, bs, hlex, rfl, -, -, hends⟩
    rcases lex_seam hsealed hlex with ⟨-, -, hseam⟩
    rw [splitTopLevel, hseam y, hends]
    show flatten as :: splitTopLevel sep y = _
    rw [hpieces]

/-- Behind a text that leaves nothing open and a separator, comments are those of the other text. -/
theorem withoutComments_cons_iff (hsep : isOpener sep = false)
    (hsealed : (Lexeme.single sep).Sealed) {t : Text} (hends : Ends sep t) (y : Text) :
    withoutComments (t ++ sep :: y) = t ++ sep :: y ↔
      withoutComments t = t ∧ withoutComments y = y := by
  rcases exists_of_splitLexemes hsep hends with ⟨as, bs, hlex, rfl, -, -, -⟩
  rcases lex_seam hsealed hlex with ⟨hlexas, -, hseam⟩
  have hsides : visible (as ++ .single sep :: lex y) = visible as ++ sep :: withoutComments y := by
    rw [visible_append]
    rfl
  have has : withoutComments (flatten as) = visible as := by rw [withoutComments, hlexas]
  rw [withoutComments, hseam y, hsides, has]
  constructor
  · intro h
    have hflat : visible (as ++ .single sep :: lex y) = flatten (as ++ .single sep :: lex y) := by
      rw [hsides, h, flatten_append, flatten_cons, flatten_lex]
      rfl
    rcases visible_eq_flatten_of_append hflat with ⟨hvas, -⟩
    rw [hvas] at h
    exact ⟨hvas, (List.cons.inj (List.append_cancel_left h)).2⟩
  · rintro ⟨hvas, hy⟩
    rw [hvas, hy]

/-- Pieces joined by separators are the pieces of what they make up just when each is one piece and all
but the last leave nothing open. -/
theorem splitTopLevel_intercalate_iff (hsep : isOpener sep = false)
    (hsealed : (Lexeme.single sep).Sealed) {ts : List Text} (hne : ts ≠ []) :
    splitTopLevel sep (List.intercalate [sep] ts) = ts ↔
      (∀ t ∈ ts, splitTopLevel sep t = [t]) ∧ ∀ t ∈ ts.dropLast, Ends sep t := by
  induction ts with
  | nil => exact absurd rfl hne
  | cons t ts ih =>
    cases ts with
    | nil => simp
    | cons t' ts =>
      rw [List.intercalate_cons_cons, List.append_assoc, List.singleton_append,
        splitTopLevel_cons_iff hsep hsealed, ih (List.cons_ne_nil _ _), List.dropLast_cons_cons,
        List.forall_mem_cons (a := t), List.forall_mem_cons (a := t), and_and_and_comm]

/-- Behind pieces that leave nothing open there are the comments of the pieces, and no others. -/
theorem withoutComments_intercalate_iff (hsep : isOpener sep = false)
    (hsealed : (Lexeme.single sep).Sealed) {ts : List Text} (hne : ts ≠ [])
    (hends : ∀ t ∈ ts.dropLast, Ends sep t) :
    withoutComments (List.intercalate [sep] ts) = List.intercalate [sep] ts ↔
      ∀ t ∈ ts, withoutComments t = t := by
  induction ts with
  | nil => exact absurd rfl hne
  | cons t ts ih =>
    cases ts with
    | nil => simp
    | cons t' ts =>
      rw [List.dropLast_cons_cons, List.forall_mem_cons] at hends
      rw [List.intercalate_cons_cons, List.append_assoc, List.singleton_append,
        withoutComments_cons_iff hsep hsealed hends.1, ih (List.cons_ne_nil _ _) hends.2,
        List.forall_mem_cons (a := t)]

/-- Pieces joined by separators are read back just when each is one piece without comments and all but
the last leave nothing open. -/
theorem pieces_intercalate_iff (hsep : isOpener sep = false)
    (hsealed : (Lexeme.single sep).Sealed) {ts : List Text} (hne : ts ≠ []) :
    (withoutComments (List.intercalate [sep] ts) = List.intercalate [sep] ts ∧
        splitTopLevel sep (List.intercalate [sep] ts) = ts) ↔
      (∀ t ∈ ts, Whole sep t) ∧ ∀ t ∈ ts.dropLast, Ends sep t := by
  rw [splitTopLevel_intercalate_iff hsep hsealed hne]
  constructor
  · rintro ⟨hplain, hpiece, hends⟩
    rw [withoutComments_intercalate_iff hsep hsealed hne hends] at hplain
    exact ⟨fun t ht => ⟨hplain t ht, hpiece t ht⟩, hends⟩
  · rintro ⟨hwhole, hends⟩
    rw [withoutComments_intercalate_iff hsep hsealed hne hends]
    exact ⟨fun t ht => (hwhole t ht).plain, fun t ht => (hwhole t ht).piece, hends⟩

end Texts

/-! ## A blank behind every separator -/

/-- Pieces as they stand between separators that have a blank behind them. -/
def spaced : List Text → List Text
  | [] => []
  | t :: ts => t :: ts.map (' ' :: ·)

theorem intercalate_cons (sep c : Char) (t : Text) (ts : List Text) :
    List.intercalate [sep] ((c :: t) :: ts) = c :: List.intercalate [sep] (t :: ts) := by
  cases ts with
  | nil => rw [List.intercalate_singleton, List.intercalate_singleton]
  | cons t' ts =>
    rw [List.intercalate_cons_cons, List.intercalate_cons_cons]
    rfl

theorem intercalate_spaced (sep : Char) (ts : List Text) :
    List.intercalate [sep] (spaced ts) = List.intercalate [sep, ' '] ts := by
  cases ts with
  | nil => rfl
  | cons t ts =>
    induction ts generalizing t with
    | nil => rfl
    | cons t' ts ih =>
      have hrest := ih t'
      rw [spaced] at hrest
      rw [spaced, List.map_cons, List.intercalate_cons_cons, List.intercalate_cons_cons,
        intercalate_cons, hrest]
      simp

theorem forall_spaced {P : Text → Prop} (hP : ∀ t, P (' ' :: t) ↔ P t) (ts : List Text) :
    (∀ t ∈ spaced ts, P t) ↔ ∀ t ∈ ts, P t := by
  cases ts with
  | nil => rfl
  | cons t ts => simp [spaced, hP]

theorem dropLast_spaced (ts : List Text) : (spaced ts).dropLast = spaced ts.dropLast := by
  cases ts with
  | nil => rfl
  | cons t ts =>
    cases ts with
    | nil => rfl
    | cons t' ts =>
      rw [spaced, List.map_cons, List.dropLast_cons_cons, ← List.map_cons, ← List.map_dropLast,
        List.dropLast_cons_cons, spaced]

section Blank

variable {sep c : Char} (hblank : isBlank sep = false) (hc : isBlank c = true)

include hblank hc

theorem splitTopLevel_blank (t : Text) :
    splitTopLevel sep (c :: t) = Text.attach [c] (splitTopLevel sep t) := by
  have hne : ∀ d, isBlank d = false → c ≠ d := by
    rintro d hd rfl
    simp [hc] at hd
  have hdepth : (Lexeme.single c).depthAfter 0 = 0 := by
    simp [Lexeme.depthAfter, isOpener, hne '(' (by decide), hne '[' (by decide)]
  rw [splitTopLevel, lex_blank hc, splitLexemes_cons (by simp [hne sep hblank]), hdepth]
  rfl

omit hblank hc in
theorem attach_eq_iff (t : Text) (ps qs : List Text) :
    Text.attach [c] ps = (c :: t) :: qs ↔ ps = t :: qs ∨ (ps = [] ∧ t = [] ∧ qs = []) := by
  cases ps with
  | nil => simp [Text.attach, eq_comm]
  | cons p ps => simp [Text.attach]

/-- A blank in front of a text leaves it one piece. -/
theorem whole_blank_iff (t : Text) : Whole sep (c :: t) ↔ Whole sep t := by
  have hne := splitLexemes_ne_nil sep 0 (lex t)
  have hplain : withoutComments (c :: t) = c :: withoutComments t := by
    rw [withoutComments, lex_blank hc]
    rfl
  constructor
  · rintro ⟨h, hpiece⟩
    rw [splitTopLevel_blank hblank hc, attach_eq_iff] at hpiece
    exact ⟨(List.cons.inj (hplain ▸ h)).2, hpiece.resolve_right fun e => hne e.1⟩
  · rintro ⟨h, hpiece⟩
    exact ⟨by rw [hplain, h], by rw [splitTopLevel_blank hblank hc, hpiece]; rfl⟩

theorem ends_blank_iff (t : Text) : Ends sep (c :: t) ↔ Ends sep t := by
  have hne := splitLexemes_ne_nil sep 0 (lex (t ++ [sep]))
  rw [Ends, Ends, List.cons_append, splitTopLevel_blank hblank hc, attach_eq_iff]
  exact ⟨fun h => h.resolve_right fun e => hne e.1, Or.inl⟩

omit hc in
/-- Pieces that are joined with a separator and a blank are the pieces of what they make up, with the
blanks in front of them, just when each is one piece and all but the last leave nothing open. -/
theorem pieces_spaced_iff (hsep : isOpener sep = false) (hsealed : (Lexeme.single sep).Sealed)
    {ts : List Text} (hne : ts ≠ []) :
    (withoutComments (List.intercalate [sep, ' '] ts) = List.intercalate [sep, ' '] ts ∧
        splitTopLevel sep (List.intercalate [sep, ' '] ts) = spaced ts) ↔
      (∀ t ∈ ts, Whole sep t) ∧ ∀ t ∈ ts.dropLast, Ends sep t := by
  have hspaced : spaced ts ≠ [] := by
    rcases List.exists_cons_of_ne_nil hne with ⟨t, rest, rfl⟩
    exact List.cons_ne_nil _ _
  rw [← intercalate_spaced, pieces_intercalate_iff hsep hsealed hspaced, dropLast_spaced,
    forall_spaced (whole_blank_iff hblank rfl), forall_spaced (ends_blank_iff hblank rfl)]

end Blank

end GeneratedContent.Css
