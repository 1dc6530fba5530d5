import GeneratedContent.Proofs.Css.Cutting
import GeneratedContent.Proofs.Css.Recoding

/-!
# Masked stylesheets

A stylesheet is masked when each of its comments is replaced by spaces and each character inside its
strings by an x. The masked stylesheet is read as the masked lexemes (`lex_mask`), and its blocks stand
where those of the stylesheet stand (`span_blocks_mask`): where the blocks are does not hang on what is
written in comments and strings.
-/

namespace GeneratedContent.Css

/-- A string behind its opening quote with an x for each character but the quote that ends it; what
a backslash takes with it ends no string. -/
def hidden (q : Char) : Text → Text
  | [] => []
  | '\\' :: _ :: s => 'x' :: 'x' :: hidden q s
  | c :: s => (if c = q then q else 'x') :: hidden q s

/-- A string with its contents hidden. -/
def hiddenString : Text → Text
  | [] => []
  | q :: s => q :: hidden q s

/-- Spaces for comments, and strings with their contents hidden. -/
def masking : Recoding where
  comment t := t.map fun _ => .single ' '
  quoted := hiddenString
  isFiller_comment := by
    intro t l hl
    rcases List.mem_map.1 hl with ⟨c, -, rfl⟩
    rfl
  head?_quoted := by
    intro t
    cases t with
    | nil => rfl
    | cons q s => rfl

/-- A stylesheet with nothing left in its comments and strings. -/
def mask (css : Text) : Text := flatten (masking.lexemes (lex css))

/-! ## Lengths -/

theorem length_hidden (q : Char) (s : Text) : (hidden q s).length = s.length := by
  fun_induction hidden q s with
  | case1 => rfl
  | case2 c s ih => simp [ih]
  | case3 c s h ih => simp [ih]

theorem length_flatten_masking_lexeme (l : Lexeme) :
    (flatten (masking.lexeme l)).length = l.text.length := by
  cases l with
  | comment t =>
    show (flatten (t.map fun _ => .single ' ')).length = t.length
    induction t with
    | nil => rfl
    | cons c t ih => simpa using ih
  | quoted t =>
    show (hiddenString t ++ []).length = t.length
    cases t with
    | nil => rfl
    | cons q s => simp [hiddenString, length_hidden]
  | single c => rfl

/-- Masked lexemes take up as much text. -/
theorem length_flatten_masking (ls : List Lexeme) :
    (flatten (masking.lexemes ls)).length = (flatten ls).length := by
  induction ls with
  | nil => rfl
  | cons l ls ih => simp [ih, length_flatten_masking_lexeme]

/-! ## Masked lexemes read back -/

/-- Masked lexemes begin as before, or with the space that stands for a comment. -/
theorem head?_flatten_masking {ls : List Lexeme} (hlex : Lexed ls) :
    (flatten (masking.lexemes ls)).head? = (flatten ls).head? ∨
      (flatten ls).head? = some '/' ∧ (flatten (masking.lexemes ls)).head? = some ' ' := by
  cases ls with
  | nil => exact Or.inl rfl
  | cons l ls =>
    cases l with
    | comment t =>
      rcases Lexeme.fits_comment.1 (lexed_cons.1 hlex).1 with ⟨u, rfl, -⟩
      exact Or.inr ⟨rfl, rfl⟩
    | quoted t =>
      rcases Lexeme.fits_quoted.1 (lexed_cons.1 hlex).1 with ⟨q, u, -, rfl, -⟩
      exact Or.inl rfl
    | single c => exact Or.inl rfl

/-- A string with its contents hidden ends where it did. -/
theorem StringRest.hidden {q : Char} {u next next' : Text} (hq : isQuote q = true)
    (h : StringRest q u next)
    (hline : (∀ c ∈ next.head?, c = '\n') → ∀ c ∈ next'.head?, c = '\n') :
    StringRest q (hidden q u) next' := by
  have hx : ∀ {s : Text}, StringRest q s next' → StringRest q ('x' :: s) next' := fun hs =>
    StringRest.plain (by decide) (ne_of_isQuote hq (by decide)) (by decide) hs
  induction h with
  | unclosed h => exact StringRest.unclosed (hline h)
  | closed =>
    have hsame : Css.hidden q [q] = [q] := by simp [Css.hidden]
    rw [hsame]
    exact StringRest.closed
  | escape h ih => exact hx (hx (ih hline))
  | loneEscape =>
    have hlone : Css.hidden q ['\\'] = ['x'] := by
      simp [Css.hidden, ne_of_isQuote hq (c := '\\') (by decide)]
    rw [hlone]
    exact hx (StringRest.unclosed (hline (by simp)))
  | @plain c u next hb hne hn h ih =>
    have hcons : Css.hidden q (c :: u) = 'x' :: Css.hidden q u := by
      rw [Css.hidden, if_neg hne]
      rintro d s rfl -
      exact hb rfl
    rw [hcons]
    exact hx (ih hline)

/-- Spaces in front of lexemes that read back read back. -/
theorem lexed_spaces_append (t : Text) {ls : List Lexeme} (hlex : Lexed ls) :
    Lexed (t.map (fun _ => .single ' ') ++ ls) := by
  induction t with
  | nil => exact hlex
  | cons c t ih => exact lexed_cons.2 ⟨Lexeme.sealed_single (by decide) (by decide) _, ih⟩

theorem Lexed.masking {ls : List Lexeme} (hlex : Lexed ls) : Lexed (masking.lexemes ls) := by
  induction ls with
  | nil => exact lexed_nil
  | cons l ls ih =>
    rcases lexed_cons.1 hlex with ⟨hfits, hrest⟩
    rw [Recoding.lexemes_cons]
    cases l with
    | comment t => exact lexed_spaces_append t (ih hrest)
    | quoted t =>
      rcases Lexeme.fits_quoted.1 hfits with ⟨q, u, hq, rfl, hu⟩
      -- a string that stops before a line break still does
      have hline : (∀ c ∈ (flatten ls).head?, c = '\n') →
          ∀ c ∈ (flatten (Css.masking.lexemes ls)).head?, c = '\n' := by
        intro h
        rcases head?_flatten_masking hrest with hsame | ⟨hslash, -⟩
        · rwa [hsame]
        · exact absurd (h '/' hslash) (by decide)
      exact lexed_cons.2 ⟨Lexeme.fits_quoted.2 ⟨q, _, hq, rfl, hu.hidden hq hline⟩, ih hrest⟩
    | single c =>
      have hc := Lexeme.fits_single.1 hfits
      refine lexed_cons.2 ⟨Lexeme.fits_single.2 ⟨hc.1, ?_⟩, ih hrest⟩
      -- a space is no star, so that no comment opens
      rintro ⟨hslash, hstar⟩
      rcases head?_flatten_masking hrest with hsame | ⟨-, hspace⟩
      · exact hc.2 ⟨hslash, hsame.symm.trans hstar⟩
      · exact absurd (hspace.symm.trans hstar) (by decide)

/-- A masked stylesheet is read as the masked lexemes. -/
theorem lex_mask (css : Text) : lex (mask css) = masking.lexemes (lex css) :=
  (lexed_lex css).masking

/-! ## Masked blocks -/

theorem Passage.span_recode_masking (offset : Nat) (p : Passage) :
    ((p.recode masking).block offset).span = (p.block offset).span := by
  simp [block, recode, Block.span, length_flatten_masking]

/-- A masked stylesheet is as long as the stylesheet, and its blocks stand where the blocks of the
stylesheet stand. -/
theorem span_blocks_mask (css : Text) :
    (mask css).length = css.length ∧
      (blocks (mask css)).map Block.span = (blocks css).map Block.span := by
  constructor
  · rw [mask, length_flatten_masking, flatten_lex]
  · rcases exists_outlined (lexed_lex css) with ⟨ps, h⟩
    rw [blocks, lex_mask, (h.recode masking).scan_eq, blocks, h.scan_eq, List.map_map, List.map_map,
      List.map_map]
    exact List.map_congr_left fun p _ => p.span_recode_masking 0

/-- A comment with a brace in it, and a string with a brace and an escaped quote. -/
example :
    mask "a/*\x7b*/ \x7bb:\"\x7d\\\"\"\x7d".toList = "a      \x7bb:\"xxx\"\x7d".toList := by
  decide +kernel

end GeneratedContent.Css
