import GeneratedContent.Proofs.Css.Commenting
import GeneratedContent.Proofs.Css.Joining

/-!
# Texts that leave nothing open

Behind a text that leaves no string and no comment open, other text is read as it is by itself
(`lex_append`). If no bracket is left open either, it is split by itself too, and only the last piece
before the seam goes on behind it (`splitTopLevel_append`).
-/

namespace GeneratedContent.Css

/-- Whether a text leaves no string and no comment open at its end. -/
def EndsClosed (s : Text) : Prop := ∀ l ∈ (lex s).getLast?, l.isClosed = true

/-- How many brackets a text leaves open. -/
def openBrackets (s : Text) : Nat := (lex s).foldl Lexeme.depthAfter 0

/-- Whether a text leaves no string, no comment and no bracket open. -/
structure LeavesNothingOpen (s : Text) : Prop where
  /-- The last string or comment is closed. -/
  endsClosed : EndsClosed s
  /-- The brackets are closed. -/
  openBrackets_eq : openBrackets s = 0

instance (s : Text) : Decidable (EndsClosed s) :=
  inferInstanceAs (Decidable (∀ l ∈ (lex s).getLast?, _))

instance (s : Text) : Decidable (LeavesNothingOpen s) :=
  decidable_of_iff (EndsClosed s ∧ openBrackets s = 0)
    ⟨fun h => ⟨h.1, h.2⟩, fun h => ⟨h.endsClosed, h.openBrackets_eq⟩⟩

/-! ## Lexemes behind the end -/

variable {s next : Text}

/-- Behind a text that ends closed other text is read as it is by itself. -/
theorem lex_append (h : EndsClosed s) (hstar : next.head? ≠ some '*') :
    lex (s ++ next) = lex s ++ lex next := by
  have hlexed : Lexed (lex s ++ lex next) :=
    (lexed_lex s).append h (lexed_lex next) (by rwa [flatten_lex])
  rwa [Lexed, flatten_append, flatten_lex, flatten_lex] at hlexed

theorem EndsClosed.append (h : EndsClosed s) (hnext : EndsClosed next)
    (hstar : next.head? ≠ some '*') : EndsClosed (s ++ next) := by
  intro l hl
  rw [lex_append h hstar, List.getLast?_append] at hl
  cases hlast : (lex next).getLast? with
  | none =>
    rw [hlast, Option.none_or] at hl
    exact h l hl
  | some k =>
    rw [hlast, Option.some_or] at hl
    obtain rfl := Option.some.inj hl
    exact hnext k hlast

theorem withoutComments_append (h : EndsClosed s) (hstar : next.head? ≠ some '*') :
    withoutComments (s ++ next) = withoutComments s ++ withoutComments next := by
  rw [withoutComments, lex_append h hstar, visible_append, withoutComments, withoutComments]

/-! ## Pieces behind the end -/

/-- Of the pieces of lexemes only the last one goes on in the lexemes behind them. -/
theorem splitLexemes_append {sep : Char} (hsep : isOpener sep = false) {depth : Nat}
    {as : List Lexeme} {ps : List Text} {p : Text} (h : splitLexemes sep depth as = ps ++ [p])
    (bs : List Lexeme) :
    splitLexemes sep depth (as ++ bs) =
      ps ++ Text.attach p (splitLexemes sep (as.foldl Lexeme.depthAfter depth) bs) := by
  induction as generalizing depth ps p with
  | nil =>
    obtain ⟨rfl, rfl⟩ : ps = [] ∧ p = [] := by
      rw [splitLexemes] at h
      simpa [List.singleton_eq_append_iff] using h
    rcases List.exists_cons_of_ne_nil (splitLexemes_ne_nil sep depth bs) with ⟨q, qs, hqs⟩
    simp [hqs, Text.attach]
  | cons l as ih =>
    rw [List.cons_append, List.foldl_cons]
    by_cases hl : l = .single sep ∧ depth = 0
    · rcases hl with ⟨rfl, rfl⟩
      have hdepth : (Lexeme.single sep).depthAfter 0 = 0 := by
        simp [Lexeme.depthAfter, hsep]
      rw [splitLexemes_separator hsep] at h
      -- the piece that ends here is not the last one
      cases ps with
      | nil => exact absurd (List.cons.inj h).2 (splitLexemes_ne_nil _ _ _)
      | cons q ps =>
        rcases List.cons.inj h with ⟨rfl, hrest⟩
        rw [splitLexemes_separator hsep, hdepth, ih hrest, List.cons_append]
    · rw [splitLexemes_cons hl] at h
      rw [splitLexemes_cons hl]
      generalize hqs : splitLexemes sep (l.depthAfter depth) as = qs at h
      -- the lexeme comes in front of the first piece, which may be the last one too
      cases qs with
      | nil => exact absurd hqs (splitLexemes_ne_nil _ _ _)
      | cons q qs =>
        cases qs with
        | nil =>
          obtain ⟨rfl, rfl⟩ : ps = [] ∧ p = l.text ++ q := by
            simpa [Text.attach, List.singleton_eq_append_iff] using h
          rcases List.exists_cons_of_ne_nil (splitLexemes_ne_nil sep
            (as.foldl Lexeme.depthAfter (l.depthAfter depth)) bs) with ⟨r, rs, hrs⟩
          rw [ih (show _ = [] ++ [q] from hqs), hrs]
          simp [Text.attach]
        | cons q' qs =>
          cases ps with
          | nil => simp [Text.attach] at h
          | cons r ps =>
            rcases List.cons.inj h with ⟨rfl, hrest⟩
            have hpieces : splitLexemes sep (l.depthAfter depth) as = (q :: ps) ++ [p] := by
              rw [hqs, hrest]
              rfl
            rw [ih hpieces, List.cons_append, Text.attach, List.cons_append]

/-- There is a last piece. -/
theorem exists_splitLexemes_eq (sep : Char) (depth : Nat) (ls : List Lexeme) :
    ∃ ps p, splitLexemes sep depth ls = ps ++ [p] :=
  ⟨_, _, (List.dropLast_concat_getLast (splitLexemes_ne_nil sep depth ls)).symm⟩

theorem exists_splitTopLevel_eq (sep : Char) (s : Text) :
    ∃ ps p, splitTopLevel sep s = ps ++ [p] :=
  exists_splitLexemes_eq sep 0 (lex s)

/-- Behind a text that leaves nothing open, other text is split as it is by itself, but for its first
piece, which goes on from the last one before the seam. -/
theorem splitTopLevel_append {sep : Char} (hsep : isOpener sep = false) (h : LeavesNothingOpen s)
    (hstar : next.head? ≠ some '*') {ps : List Text} {p : Text}
    (hpieces : splitTopLevel sep s = ps ++ [p]) :
    splitTopLevel sep (s ++ next) = ps ++ Text.attach p (splitTopLevel sep next) := by
  have hdepth : (lex s).foldl Lexeme.depthAfter 0 = 0 := h.openBrackets_eq
  rw [splitTopLevel, lex_append h.endsClosed hstar, splitLexemes_append hsep hpieces, hdepth]
  rfl

/-! ## Texts that end with a mark -/

/-- A closed string ends with its quote. -/
theorem StringRest.getLast?_of_closesString {q : Char} {u : Text} (hq : isQuote q = true)
    (h : StringRest q u next) (hclosed : closesString q u = true) : u.getLast? = some q := by
  induction h with
  | unclosed h => simp [closesString] at hclosed
  | closed => rfl
  | @escape c u next h ih =>
    have hlast := ih hclosed
    rw [List.getLast?_cons, List.getLast?_cons, hlast]
    rfl
  | loneEscape => simp [closesString, ne_of_isQuote hq (c := '\\') (by decide)] at hclosed
  | plain hb hne hn h ih =>
    rw [closesString_cons hb] at hclosed
    rw [List.getLast?_cons, ih (by simpa [hne] using hclosed)]
    rfl

/-- What is closed ends with a quote or a slash, or is a single character. -/
theorem Lexeme.eq_single_of_getLast? {l : Lexeme} {c : Char} (h : l.Fits next)
    (hclosed : l.isClosed = true) (hlast : l.text.getLast? = some c) (hq : isQuote c = false)
    (hc : c ≠ '/') : l = .single c := by
  cases l with
  | comment t =>
    rcases Lexeme.fits_comment.1 h with ⟨u, rfl, hu⟩
    obtain ⟨v, rfl⟩ : "*/".toList <:+ u := by simpa [isClosed] using hclosed
    have hslash : ('/' :: '*' :: (v ++ ['*', '/'])).getLast? = some '/' := by
      rw [← List.cons_append, ← List.cons_append, List.getLast?_append]
      rfl
    exact absurd (Option.some.inj (hlast.symm.trans hslash)) hc
  | quoted t =>
    rcases Lexeme.fits_quoted.1 h with ⟨q, u, hq', rfl, hu⟩
    have hquote : (q :: u).getLast? = some q := by
      rw [List.getLast?_cons, hu.getLast?_of_closesString hq' hclosed]
      rfl
    rw [Option.some.inj (hlast.symm.trans hquote), hq'] at hq
    exact absurd hq (by decide)
  | single d => exact congrArg Lexeme.single (Option.some.inj hlast)

/-- A text that ends closed has a mark at its end as its last lexeme. -/
theorem EndsClosed.exists_lex_eq (h : EndsClosed s) {c : Char} (hlast : s.getLast? = some c)
    (hq : isQuote c = false) (hc : c ≠ '/') : ∃ ls, lex s = ls ++ [.single c] := by
  have hne : lex s ≠ [] := by
    intro hnil
    rw [← flatten_lex s, hnil] at hlast
    exact absurd hlast (by simp)
  obtain ⟨ls, l, hlex⟩ : ∃ ls l, lex s = ls ++ [l] :=
    ⟨_, _, (List.dropLast_concat_getLast hne).symm⟩
  have hlexed : Lexed (ls ++ [l]) := hlex ▸ lexed_lex s
  have hfits : l.Fits [] := (lexed_cons.1 hlexed.of_append).1
  have hclosed : l.isClosed = true := h l (by rw [hlex]; simp)
  have htext : l.text.getLast? = some c := by
    rw [← flatten_lex s, hlex, flatten_append, flatten_cons, flatten_nil, List.append_nil,
      List.getLast?_append, Option.or_of_isSome (by simpa using hfits.text_ne_nil)] at hlast
    exact hlast
  exact ⟨ls, by rw [hlex, Lexeme.eq_single_of_getLast? hfits hclosed htext hq hc]⟩

/-- A separator at the end of a text that leaves nothing open has an empty piece behind it. -/
theorem exists_splitTopLevel_of_getLast? {sep : Char} (h : LeavesNothingOpen s)
    (hlast : s.getLast? = some sep) (hsep : isOpener sep = false) (hcloser : isCloser sep = false)
    (hq : isQuote sep = false) (hc : sep ≠ '/') :
    ∃ ps, splitTopLevel sep s = ps ++ [[]] := by
  rcases h.endsClosed.exists_lex_eq hlast hq hc with ⟨ls, hlex⟩
  have hdepth := h.openBrackets_eq
  rw [openBrackets, hlex, List.foldl_append] at hdepth
  -- the separator itself opens and closes no bracket
  have hbefore : ls.foldl Lexeme.depthAfter 0 = 0 := by
    simpa [Lexeme.depthAfter, hsep, hcloser] using hdepth
  rcases exists_splitLexemes_eq sep 0 ls with ⟨ps, p, hpieces⟩
  refine ⟨ps ++ [p], ?_⟩
  rw [splitTopLevel, hlex, splitLexemes_append hsep hpieces, hbefore, splitLexemes_separator hsep,
    splitLexemes, List.append_assoc]
  simp [Text.attach]

end GeneratedContent.Css
