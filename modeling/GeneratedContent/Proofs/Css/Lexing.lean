import GeneratedContent.Css.Comment
import GeneratedContent.Text.Blank

/-!
# Lexemes that read back

Text may be cut between two lexemes and joined with other text, and the lexemes on both sides
stay what they are, as long as the seam does not open a comment, continue an open string or leave
a comment without its end. This module says when lexemes read back as themselves (`Lexed`), what a
single lexeme asks of the text that follows it (`Lexeme.Fits`), and that it only looks at the next
character (`Lexeme.Fits.congr`). A closed comment, and every character but quotes and the slash,
asks for nothing (`Lexeme.Sealed`).
-/

namespace GeneratedContent.Css

/-! ## Lexemes put end to end -/

@[simp] theorem flatten_nil : flatten [] = [] := rfl

@[simp] theorem flatten_cons (l : Lexeme) (ls : List Lexeme) :
    flatten (l :: ls) = l.text ++ flatten ls := by
  simp [flatten]

@[simp] theorem flatten_append (as bs : List Lexeme) :
    flatten (as ++ bs) = flatten as ++ flatten bs := by
  simp [flatten]

@[simp] theorem visible_cons (l : Lexeme) (ls : List Lexeme) :
    visible (l :: ls) = l.visible ++ visible ls := by
  simp [visible]

@[simp] theorem Lexeme.text_single (c : Char) : (Lexeme.single c).text = [c] := rfl

@[simp] theorem lex_nil : lex [] = [] := by
  simp [lex]

/-! ## Comments and strings that end before a text -/

theorem cutComment_close (s : Text) : cutComment ('*' :: '/' :: s) = (['*', '/'], s) := rfl

theorem cutComment_cons {c : Char} {s : Text} (h : ¬ (c = '*' ∧ s.head? = some '/')) :
    cutComment (c :: s) = (c :: (cutComment s).1, (cutComment s).2) := by
  rw [cutComment]
  intro t hc ht
  exact h ⟨hc, by simp [ht]⟩

theorem cutComment_fst_ne_nil (c : Char) (s : Text) : (cutComment (c :: s)).1 ≠ [] := by
  by_cases hc : c = '*' ∧ s.head? = some '/'
  · obtain ⟨t, rfl⟩ : ∃ t, s = '/' :: t := List.head?_eq_some_iff.1 hc.2
    rw [hc.1, cutComment_close]
    exact List.cons_ne_nil _ _
  · rw [cutComment_cons hc]
    exact List.cons_ne_nil _ _

/-- A comment that ends before some text ends there whatever the text is. -/
theorem cutComment_append {u next : Text} (next' : Text) (hne : next ≠ [])
    (h : cutComment (u ++ next) = (u, next)) : cutComment (u ++ next') = (u, next') := by
  induction u with
  | nil =>
    -- the text behind would have been taken into the comment
    rcases List.exists_cons_of_ne_nil hne with ⟨c, s, rfl⟩
    exact absurd (congrArg Prod.fst h) (cutComment_fst_ne_nil c s)
  | cons c u ih =>
    rw [List.cons_append] at h ⊢
    -- either the comment ends here, and the end is part of it, or it goes on
    by_cases hc : c = '*' ∧ (u ++ next).head? = some '/'
    · obtain ⟨t, ht⟩ : ∃ t, u ++ next = '/' :: t := List.head?_eq_some_iff.1 hc.2
      rw [hc.1, ht, cutComment_close] at h
      obtain ⟨hu, rfl⟩ : ['/'] = u ∧ t = next := by simpa using h
      rw [hc.1, ← hu]
      rfl
    · rw [cutComment_cons hc] at h
      obtain ⟨hu, hn⟩ : (cutComment (u ++ next)).1 = u ∧ (cutComment (u ++ next)).2 = next := by
        simpa using h
      -- a star at the seam would have taken the text behind it into the comment
      have hc' : ¬ (c = '*' ∧ (u ++ next').head? = some '/') := by
        cases u with
        | nil =>
          rcases List.exists_cons_of_ne_nil hne with ⟨d, s, rfl⟩
          exact absurd hu (cutComment_fst_ne_nil d s)
        | cons d u => simpa using hc
      rw [cutComment_cons hc', ih (Prod.ext hu hn)]

theorem cutString_escape (q c : Char) (s : Text) :
    cutString q ('\\' :: c :: s) = ('\\' :: c :: (cutString q s).1, (cutString q s).2) := rfl

theorem cutString_cons {q c : Char} {s : Text} (h : c = '\\' → s = []) :
    cutString q (c :: s) =
      if c = q then ([c], s) else if c = '\n' then ([], c :: s)
      else (c :: (cutString q s).1, (cutString q s).2) := by
  rw [cutString]
  intro d t hc hs
  simp [h hc] at hs

theorem ne_of_isQuote {q c : Char} (hq : isQuote q = true) (hc : isQuote c = false) : c ≠ q := by
  rintro rfl
  rw [hq] at hc
  exact absurd hc (by decide)

/-- Whether a text stands behind an opening quote as the rest of its string when `next` follows. -/
inductive StringRest (q : Char) : Text → Text → Prop where
  /-- The string ends before a line break, or where the text ends. -/
  | unclosed {next : Text} (h : ∀ c ∈ next.head?, c = '\n') : StringRest q [] next
  /-- The string ends with its quote. -/
  | closed {next : Text} : StringRest q [q] next
  /-- A backslash takes the next character with it. -/
  | escape {c : Char} {u next : Text} (h : StringRest q u next) : StringRest q ('\\' :: c :: u) next
  /-- There is nothing for a backslash to take. -/
  | loneEscape : StringRest q ['\\'] []
  /-- Any other character stands for itself. -/
  | plain {c : Char} {u next : Text} (hb : c ≠ '\\') (hq : c ≠ q) (hn : c ≠ '\n')
    (h : StringRest q u next) : StringRest q (c :: u) next

theorem cutString_of_stringRest {q : Char} {u next : Text} (hq : isQuote q = true)
    (h : StringRest q u next) : cutString q (u ++ next) = (u, next) := by
  induction h with
  | @unclosed next h =>
    cases next with
    | nil => rfl
    | cons c s =>
      obtain rfl : c = '\n' := h c rfl
      rw [List.nil_append, cutString_cons (by simp), if_neg (ne_of_isQuote hq (by decide)),
        if_pos rfl]
  | closed =>
    have hb : q ≠ '\\' := (ne_of_isQuote hq (by decide)).symm
    rw [List.singleton_append, cutString_cons fun h => absurd h hb, if_pos rfl]
  | escape h ih => rw [List.cons_append, List.cons_append, cutString_escape, ih]
  | loneEscape =>
    rw [List.append_nil, cutString_cons fun _ => rfl, if_neg (ne_of_isQuote hq (by decide)),
      if_neg (by decide)]
    rfl
  | plain hb hne hn h ih =>
    rw [List.cons_append, cutString_cons fun h => absurd h hb, if_neg hne, if_neg hn, ih]

theorem stringRest_of_cutString {q : Char} {next : Text} (hq : isQuote q = true) :
    ∀ u : Text, cutString q (u ++ next) = (u, next) → StringRest q u next
  | [], h => by
    refine StringRest.unclosed fun c hc => ?_
    rcases List.head?_eq_some_iff.1 hc with ⟨s, rfl⟩
    have hnil : (cutString q (c :: s)).1 = [] := congrArg Prod.fst h
    -- of all first characters a line break alone ends a string without being part of it
    by_cases hb : c = '\\' ∧ s ≠ []
    · rcases List.exists_cons_of_ne_nil hb.2 with ⟨d, t, rfl⟩
      rw [hb.1, cutString_escape] at hnil
      exact absurd hnil (List.cons_ne_nil _ _)
    · rw [cutString_cons (by simpa using hb)] at hnil
      split at hnil
      · exact absurd hnil (List.cons_ne_nil _ _)
      · split at hnil
        · assumption
        · exact absurd hnil (List.cons_ne_nil _ _)
  | c :: u, h => by
    by_cases hb : c = '\\' ∧ u ++ next ≠ []
    · -- the backslash takes a character of the string with it, so the induction goes on two further
      rcases hb with ⟨rfl, hne⟩
      cases u with
      | nil =>
        rcases List.exists_cons_of_ne_nil hne with ⟨d, s, hd⟩
        have hs : next = d :: s := hd
        rw [hs, List.singleton_append, cutString_escape] at h
        simp at h
      | cons d u =>
        rw [List.cons_append, List.cons_append, cutString_escape] at h
        obtain ⟨hu, hn⟩ : (cutString q (u ++ next)).1 = u ∧ (cutString q (u ++ next)).2 = next := by
          simpa using h
        exact StringRest.escape (stringRest_of_cutString hq u (Prod.ext hu hn))
    · have hb' : c = '\\' → u ++ next = [] := by simpa using hb
      rw [List.cons_append, cutString_cons hb'] at h
      split at h
      · rename_i heq
        obtain rfl : u = [] := by simpa using (congrArg Prod.fst h).symm
        rw [heq]
        exact StringRest.closed
      · split at h
        · exact absurd (congrArg Prod.fst h).symm (List.cons_ne_nil _ _)
        · rename_i hne hn
          obtain ⟨hu, hs⟩ : (cutString q (u ++ next)).1 = u ∧ (cutString q (u ++ next)).2 = next := by
            simpa using h
          by_cases hc : c = '\\'
          · rcases List.append_eq_nil_iff.1 (hb' hc) with ⟨rfl, rfl⟩
            rw [hc]
            exact StringRest.loneEscape
          · exact StringRest.plain hc hne hn (stringRest_of_cutString hq u (Prod.ext hu hs))

/-- Where a string ends depends on the text behind it only through the first character. -/
theorem StringRest.congr {q : Char} {u next next' : Text} (h : StringRest q u next)
    (hhead : next.head? = next'.head?) : StringRest q u next' := by
  induction h with
  | unclosed h => exact StringRest.unclosed (hhead ▸ h)
  | closed => exact StringRest.closed
  | escape h ih => exact StringRest.escape (ih hhead)
  | loneEscape =>
    obtain rfl : next' = [] := by simpa using hhead.symm
    exact StringRest.loneEscape
  | plain hb hq hn h ih => exact StringRest.plain hb hq hn (ih hhead)

/-- A string ends where it does if nothing follows. -/
theorem StringRest.atEnd {q : Char} {u next : Text} (h : StringRest q u next) :
    StringRest q u [] := by
  induction h with
  | unclosed h => exact StringRest.unclosed (by simp)
  | closed => exact StringRest.closed
  | escape h ih => exact StringRest.escape ih
  | loneEscape => exact StringRest.loneEscape
  | plain hb hq hn h ih => exact StringRest.plain hb hq hn ih

/-! ## What a lexeme asks of the text behind it -/

theorem lex_comment (s : Text) :
    lex ('/' :: '*' :: s) = .comment ('/' :: '*' :: (cutComment s).1) :: lex (cutComment s).2 := by
  rw [lex]

theorem lex_quoted {c : Char} (s : Text) (hc : isQuote c = true) :
    lex (c :: s) = .quoted (c :: (cutString c s).1) :: lex (cutString c s).2 := by
  rw [lex, if_pos hc]
  rintro t rfl -
  simp [isQuote] at hc

theorem lex_single {c : Char} {s : Text} (hc : isQuote c = false)
    (hs : ¬ (c = '/' ∧ s.head? = some '*')) : lex (c :: s) = .single c :: lex s := by
  rw [lex, if_neg (by simp [hc])]
  intro t ht hst
  exact hs ⟨ht, by simp [hst]⟩

theorem lex_blank {c : Char} (h : isBlank c = true) (next : Text) :
    lex (c :: next) = .single c :: lex next := by
  have hne : ∀ d, isBlank d = false → c ≠ d := by
    rintro d hd rfl
    simp [h] at hd
  refine lex_single ?_ ?_
  · simp [isQuote, hne '"' (by decide), hne '\'' (by decide)]
  · rintro ⟨hc, -⟩
    exact hne '/' (by decide) hc

/-- What a text begins with. -/
theorem text_cases (s : Text) :
    s = [] ∨ (∃ u, s = '/' :: '*' :: u) ∨ (∃ q u, isQuote q = true ∧ s = q :: u) ∨
      ∃ c u, isQuote c = false ∧ ¬ (c = '/' ∧ u.head? = some '*') ∧ s = c :: u := by
  cases s with
  | nil => exact Or.inl rfl
  | cons c u =>
    refine Or.inr ?_
    by_cases hc : c = '/' ∧ u.head? = some '*'
    · obtain ⟨v, rfl⟩ : ∃ v, u = '*' :: v := List.head?_eq_some_iff.1 hc.2
      exact Or.inl ⟨v, by rw [hc.1]⟩
    · refine Or.inr ?_
      cases hq : isQuote c with
      | true => exact Or.inl ⟨c, u, hq, rfl⟩
      | false => exact Or.inr ⟨c, u, hq, hc, rfl⟩

/-- Whether a lexeme is read off the front of its text when `next` follows. -/
def Lexeme.Fits (l : Lexeme) (next : Text) : Prop := lex (l.text ++ next) = l :: lex next

/-- Whether lexemes are those of the text that they make up. -/
def Lexed (ls : List Lexeme) : Prop := lex (flatten ls) = ls

/-- Whether a lexeme is read off the front of its text whatever follows. -/
def Lexeme.Sealed (l : Lexeme) : Prop := ∀ next, l.Fits next

theorem Lexeme.fits_comment {t next : Text} :
    (Lexeme.comment t).Fits next ↔
      ∃ u, t = '/' :: '*' :: u ∧ cutComment (u ++ next) = (u, next) := by
  constructor
  · intro h
    have h' : lex (t ++ next) = .comment t :: lex next := h
    -- only where a comment begins is a comment read off
    rcases text_cases (t ++ next) with e | ⟨v, e⟩ | ⟨q, v, hq, e⟩ | ⟨c, v, hq, hc, e⟩
    · simp [e] at h'
    · rw [e, lex_comment] at h'
      obtain ⟨ht, -⟩ : '/' :: '*' :: (cutComment v).1 = t ∧ _ := by simpa using h'
      have hv : v = (cutComment v).1 ++ next := by simpa [← ht] using e.symm
      have hn : (cutComment v).2 = next := by
        have h1 := append_cutComment v
        exact List.append_cancel_left (h1.trans hv)
      exact ⟨(cutComment v).1, ht.symm, by rw [← hv]; exact Prod.ext rfl hn⟩
    · simp [e, lex_quoted v hq] at h'
    · simp [e, lex_single hq hc] at h'
  · rintro ⟨u, rfl, hu⟩
    show lex ('/' :: '*' :: (u ++ next)) = _
    rw [lex_comment, hu]

theorem Lexeme.fits_quoted {t next : Text} :
    (Lexeme.quoted t).Fits next ↔
      ∃ q u, isQuote q = true ∧ t = q :: u ∧ StringRest q u next := by
  constructor
  · intro h
    have h' : lex (t ++ next) = .quoted t :: lex next := h
    -- only at a quote is a string read off
    rcases text_cases (t ++ next) with e | ⟨v, e⟩ | ⟨q, v, hq, e⟩ | ⟨c, v, hq, hc, e⟩
    · simp [e] at h'
    · simp [e, lex_comment] at h'
    · rw [e, lex_quoted v hq] at h'
      obtain ⟨ht, -⟩ : q :: (cutString q v).1 = t ∧ _ := by simpa using h'
      have hv : v = (cutString q v).1 ++ next := by simpa [← ht] using e.symm
      have hn : (cutString q v).2 = next := by
        have h1 := append_cutString q v
        exact List.append_cancel_left (h1.trans hv)
      have hcut : cutString q ((cutString q v).1 ++ next) = ((cutString q v).1, next) := by
        rw [← hv]
        exact Prod.ext rfl hn
      exact ⟨q, (cutString q v).1, hq, ht.symm, stringRest_of_cutString hq _ hcut⟩
    · simp [e, lex_single hq hc] at h'
  · rintro ⟨q, u, hq, rfl, hu⟩
    show lex (q :: (u ++ next)) = _
    rw [lex_quoted _ hq, cutString_of_stringRest hq hu]

theorem Lexeme.fits_single {c : Char} {next : Text} :
    (Lexeme.single c).Fits next ↔
      isQuote c = false ∧ ¬ (c = '/' ∧ next.head? = some '*') := by
  constructor
  · intro h
    have h' : lex (c :: next) = .single c :: lex next := h
    -- neither a comment nor a string is a single character
    rcases text_cases (c :: next) with e | ⟨v, e⟩ | ⟨q, v, hq, e⟩ | ⟨d, v, hq, hc, e⟩
    · simp at e
    · simp [e, lex_comment] at h'
    · simp [e, lex_quoted v hq] at h'
    · rcases List.cons.inj e with ⟨rfl, rfl⟩
      exact ⟨hq, hc⟩
  · rintro ⟨hq, hc⟩
    exact lex_single hq hc

/-- A lexeme only looks at the next character. -/
theorem Lexeme.Fits.congr {l : Lexeme} {next next' : Text} (h : l.Fits next)
    (hhead : next.head? = next'.head?) : l.Fits next' := by
  cases l with
  | comment t =>
    rcases Lexeme.fits_comment.1 h with ⟨u, rfl, hu⟩
    refine Lexeme.fits_comment.2 ⟨u, rfl, ?_⟩
    -- a comment may be open only at the end of the text, and then nothing follows here either
    by_cases hn : next = []
    · obtain rfl : next' = [] := by simpa [hn] using hhead.symm
      rw [← hn]
      exact hu
    · exact cutComment_append next' hn hu
  | quoted t =>
    rcases Lexeme.fits_quoted.1 h with ⟨q, u, hq, rfl, hu⟩
    exact Lexeme.fits_quoted.2 ⟨q, u, hq, rfl, hu.congr hhead⟩
  | single c =>
    have hc := Lexeme.fits_single.1 h
    exact Lexeme.fits_single.2 (by rwa [hhead] at hc)

/-- A comment with text behind it is closed. -/
theorem Lexeme.sealed_comment {t next : Text} (hne : next ≠ [])
    (h : (Lexeme.comment t).Fits next) : (Lexeme.comment t).Sealed := by
  intro next'
  rcases Lexeme.fits_comment.1 h with ⟨u, rfl, hu⟩
  exact Lexeme.fits_comment.2 ⟨u, rfl, cutComment_append next' hne hu⟩

theorem Lexeme.sealed_single {c : Char} (hq : isQuote c = false) (hc : c ≠ '/') :
    (Lexeme.single c).Sealed := by
  intro next
  exact Lexeme.fits_single.2 ⟨hq, fun h => hc h.1⟩

/-! ## Lexemes of a text -/

@[simp] theorem lexed_nil : Lexed [] := lex_nil

/-- The lexemes of a text read back. -/
theorem lexed_lex (s : Text) : Lexed (lex s) := by
  rw [Lexed, flatten_lex]

theorem lexed_of_lex_cons {s : Text} {l : Lexeme} {ls : List Lexeme} (h : lex s = l :: ls) :
    Lexed ls := by
  -- whatever comes first, the others are the lexemes of what is left of the text
  rcases text_cases s with rfl | ⟨v, rfl⟩ | ⟨q, v, hq, rfl⟩ | ⟨c, v, hq, hc, rfl⟩
  · simp at h
  · rw [lex_comment] at h
    rw [← (List.cons.inj h).2]
    exact lexed_lex _
  · rw [lex_quoted v hq] at h
    rw [← (List.cons.inj h).2]
    exact lexed_lex _
  · rw [lex_single hq hc] at h
    rw [← (List.cons.inj h).2]
    exact lexed_lex _

theorem lexed_cons {l : Lexeme} {ls : List Lexeme} :
    Lexed (l :: ls) ↔ l.Fits (flatten ls) ∧ Lexed ls := by
  constructor
  · intro h
    have hl : lex (l.text ++ flatten ls) = l :: ls := by simpa [Lexed] using h
    have hls : Lexed ls := lexed_of_lex_cons hl
    exact ⟨by rw [Lexeme.Fits, hl, hls], hls⟩
  · rintro ⟨hl, hls⟩
    rw [Lexed, flatten_cons, hl, hls]

theorem Lexed.of_append {as bs : List Lexeme} (h : Lexed (as ++ bs)) : Lexed bs := by
  induction as with
  | nil => exact h
  | cons a as ih => exact ih (lexed_cons.1 h).2

theorem Lexeme.Fits.text_ne_nil {l : Lexeme} {next : Text} (h : l.Fits next) : l.text ≠ [] := by
  intro hl
  have hlen : (lex next).length = (l :: lex next).length := by
    rw [← h, hl, List.nil_append]
  simp at hlen

/-- Lexemes at the end may be exchanged for others that begin with the same character. -/
theorem Lexed.replace {as bs bs' : List Lexeme} (h : Lexed (as ++ bs)) (h' : Lexed bs')
    (hhead : (flatten bs).head? = (flatten bs').head?) : Lexed (as ++ bs') := by
  induction as with
  | nil => exact h'
  | cons a as ih =>
    rw [List.cons_append] at h ⊢
    rcases lexed_cons.1 h with ⟨ha, hrest⟩
    -- a lexeme before looks at the next character only, and that is the same
    refine lexed_cons.2 ⟨ha.congr ?_, ih hrest⟩
    rw [flatten_append, flatten_append]
    cases flatten as with
    | nil => exact hhead
    | cons c t => rfl

theorem Lexeme.Fits.head?_append {l : Lexeme} {next : Text} (h : l.Fits next) (s : Text) :
    (l.text ++ s).head? = l.text.head? := by
  rcases List.exists_cons_of_ne_nil h.text_ne_nil with ⟨c, t, ht⟩
  rw [ht]
  rfl

/-- Behind a sealed lexeme the text may be exchanged. -/
theorem Lexed.exchange {as bs bs' : List Lexeme} {l : Lexeme} (h : Lexed (as ++ l :: bs))
    (hl : l.Sealed) (h' : Lexed bs') : Lexed (as ++ l :: bs') := by
  refine h.replace (lexed_cons.2 ⟨hl _, h'⟩) ?_
  rw [flatten_cons, flatten_cons, (hl []).head?_append, (hl []).head?_append]

/-! ## Lexemes at the front of a text -/

/-- A lexeme that is read off before some text is read off at the end of the text too. -/
theorem Lexeme.Fits.fits_nil {l : Lexeme} {next : Text} (h : l.Fits next) : l.Fits [] := by
  cases l with
  | comment t =>
    by_cases hn : next = []
    · exact hn ▸ h
    · exact Lexeme.sealed_comment hn h []
  | quoted t =>
    rcases Lexeme.fits_quoted.1 h with ⟨q, u, hq, rfl, hu⟩
    exact Lexeme.fits_quoted.2 ⟨q, u, hq, rfl, hu.atEnd⟩
  | single c =>
    have hc := Lexeme.fits_single.1 h
    exact Lexeme.fits_single.2 ⟨hc.1, by simp⟩

/-- The first lexemes of a text are those of the text that they make up. -/
theorem Lexed.of_append_left {as bs : List Lexeme} (h : Lexed (as ++ bs)) : Lexed as := by
  induction as with
  | nil => exact lexed_nil
  | cons a as ih =>
    rw [List.cons_append] at h
    rcases lexed_cons.1 h with ⟨ha, hrest⟩
    refine lexed_cons.2 ⟨?_, ih hrest⟩
    -- only the last of them has another text behind it now, which is none
    cases hflat : flatten as with
    | nil => exact ha.fits_nil
    | cons c t =>
      apply ha.congr
      rw [flatten_append, hflat, List.cons_append, List.head?_cons, List.head?_cons]

end GeneratedContent.Css
