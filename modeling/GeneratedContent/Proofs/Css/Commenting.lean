import GeneratedContent.Proofs.Css.Recoding
import GeneratedContent.Proofs.Css.Sheet

/-!
# Comments put into a stylesheet

A comment may be put into a stylesheet at every offset that lies in no comment and no string (`IsSeam`),
unless the comment or string before it is still open (`Lexeme.isClosed`): then it is one more lexeme
between the others (`lex_commentedAt`). The blocks keep what they show, their preludes and, without
comments, their bodies (`map_shown_commentedAt`).
-/

namespace GeneratedContent.Css

/-! ## Offsets between lexemes -/

/-- Lexemes that stand at an offset, each with its own offset. -/
def placed : (offset : Nat) → List Lexeme → List (Nat × Lexeme)
  | _, [] => []
  | offset, l :: ls => (offset, l) :: placed (offset + l.text.length) ls

/-- Whether a lexeme is a string. -/
def Lexeme.isString : Lexeme → Bool
  | .quoted _ => true
  | _ => false

/-- Whether a lexeme is a comment or a string. -/
def Lexeme.isSolid : Lexeme → Bool
  | .single _ => false
  | _ => true

/-- Whether an offset lies in a text and, there, in no comment and no string. -/
def IsSeam (css : Text) (i : Nat) : Prop :=
  i ≤ css.length ∧
    ∀ e ∈ placed 0 (lex css), e.2.isSolid = true → i ≤ e.1 ∨ e.1 + e.2.text.length ≤ i

instance (css : Text) (i : Nat) : Decidable (IsSeam css i) := inferInstanceAs (Decidable (_ ∧ _))

/-- Whether a text has a quote in it that no backslash takes with it. -/
def closesString (q : Char) : Text → Bool
  | [] => false
  | '\\' :: _ :: s => closesString q s
  | c :: s => c == q || closesString q s

theorem closesString_cons {q c : Char} (hb : c ≠ '\\') (s : Text) :
    closesString q (c :: s) = (c == q || closesString q s) := by
  rw [closesString]
  rintro d t rfl -
  exact hb rfl

/-- Whether a comment ends with a star and a slash, and a string with its quote. -/
def Lexeme.isClosed : Lexeme → Bool
  | .comment t => "*/".toList.isSuffixOf (t.drop 2)
  | .quoted [] => false
  | .quoted (q :: u) => closesString q u
  | .single _ => true

theorem placed_append (offset : Nat) (as bs : List Lexeme) :
    placed offset (as ++ bs) = placed offset as ++ placed (offset + (flatten as).length) bs := by
  induction as generalizing offset with
  | nil => rfl
  | cons a as ih => simp [placed, ih, Nat.add_assoc]

/-- An offset that lies in no comment and no string lies between two lexemes. -/
theorem exists_split {offset i : Nat} {ls : List Lexeme} (hlo : offset ≤ i)
    (hhi : i ≤ offset + (flatten ls).length)
    (hout : ∀ e ∈ placed offset ls, e.2.isSolid = true → i ≤ e.1 ∨ e.1 + e.2.text.length ≤ i) :
    ∃ as bs, ls = as ++ bs ∧ offset + (flatten as).length = i := by
  induction ls generalizing offset with
  | nil => exact ⟨[], [], rfl, Nat.le_antisymm hlo hhi⟩
  | cons l ls ih =>
    by_cases hat : i = offset
    · exact ⟨[], l :: ls, rfl, hat.symm⟩
    · -- a single character has no inside, and in no other lexeme does the offset lie
      have hbehind : offset + l.text.length ≤ i := by
        have hl : l.isSolid = true → i ≤ offset ∨ offset + l.text.length ≤ i :=
          hout (offset, l) List.mem_cons_self
        cases l with
        | comment t =>
          have hor := hl rfl
          omega
        | quoted t =>
          have hor := hl rfl
          omega
        | single c =>
          show offset + 1 ≤ i
          omega
      rw [flatten_cons, List.length_append, ← Nat.add_assoc] at hhi
      rcases ih hbehind hhi fun e he => hout e (List.mem_cons_of_mem _ he) with ⟨as, bs, rfl, hi⟩
      exact ⟨l :: as, bs, rfl, by rw [flatten_cons, List.length_append, ← Nat.add_assoc, hi]⟩

/-! ## Lexemes that are closed -/

/-- A comment that ends with its end does so before any text. -/
theorem cutComment_of_suffix {u next : Text} (next' : Text)
    (h : cutComment (u ++ next) = (u, next)) (hend : "*/".toList <:+ u) :
    cutComment (u ++ next') = (u, next') := by
  induction u with
  | nil => exact absurd (List.suffix_nil.1 hend) (by decide)
  | cons c u ih =>
    have hne : u ≠ [] := by
      rintro rfl
      have hlength := hend.length_le
      simp at hlength
    have hhead : ∀ s : Text, (u ++ s).head? = u.head? := by
      intro s
      rcases List.exists_cons_of_ne_nil hne with ⟨d, v, rfl⟩
      rfl
    rw [List.cons_append] at h ⊢
    by_cases hc : c = '*' ∧ u.head? = some '/'
    · -- the end of the comment is all of it
      obtain ⟨v, rfl⟩ : ∃ v, u = '/' :: v := List.head?_eq_some_iff.1 hc.2
      rw [hc.1, List.cons_append, cutComment_close] at h ⊢
      have hv : v = [] := by simpa using h
      rw [hv]
      rfl
    · rw [cutComment_cons (by rwa [hhead])] at h ⊢
      obtain ⟨hu, hn⟩ : (cutComment (u ++ next)).1 = u ∧ (cutComment (u ++ next)).2 = next := by
        simpa using h
      have hend' : "*/".toList <:+ u := by
        rcases List.suffix_cons_iff.1 hend with heq | hsuffix
        · obtain ⟨rfl, rfl⟩ := List.cons.inj heq
          exact absurd ⟨rfl, rfl⟩ hc
        · exact hsuffix
      rw [ih (Prod.ext hu hn) hend']

/-- A string that ends with its quote does so before any text. -/
theorem StringRest.of_closesString {q : Char} {u next : Text} (hq : isQuote q = true)
    (h : StringRest q u next) (hclosed : closesString q u = true) (next' : Text) :
    StringRest q u next' := by
  induction h with
  | unclosed h => simp [closesString] at hclosed
  | closed => exact StringRest.closed
  | escape h ih => exact StringRest.escape (ih hclosed)
  | loneEscape =>
    simp [closesString, ne_of_isQuote hq (c := '\\') (by decide)] at hclosed
  | plain hb hne hn h ih =>
    rw [closesString_cons hb] at hclosed
    exact StringRest.plain hb hne hn (ih (by simpa [hne] using hclosed))

/-- What is closed is read off before any text that does not begin with a star. -/
theorem Lexeme.Fits.of_isClosed {l : Lexeme} {next next' : Text} (h : l.Fits next)
    (hclosed : l.isClosed = true) (hstar : next'.head? ≠ some '*') : l.Fits next' := by
  cases l with
  | comment t =>
    rcases Lexeme.fits_comment.1 h with ⟨u, rfl, hu⟩
    have hend : "*/".toList <:+ u := by simpa [isClosed] using hclosed
    exact Lexeme.fits_comment.2 ⟨u, rfl, cutComment_of_suffix _ hu hend⟩
  | quoted t =>
    rcases Lexeme.fits_quoted.1 h with ⟨q, u, hq, rfl, hu⟩
    exact Lexeme.fits_quoted.2 ⟨q, u, hq, rfl, hu.of_closesString hq hclosed _⟩
  | single c => exact Lexeme.fits_single.2 ⟨(Lexeme.fits_single.1 h).1, fun e => hstar e.2⟩

/-- Lexemes behind closed ones stay what they are, unless they begin with a star. -/
theorem Lexed.append {as bs : List Lexeme} (h : Lexed as)
    (hclosed : ∀ l ∈ as.getLast?, l.isClosed = true) (hbs : Lexed bs)
    (hstar : (flatten bs).head? ≠ some '*') : Lexed (as ++ bs) := by
  rcases List.eq_nil_or_concat as with rfl | ⟨as, l, rfl⟩
  · exact hbs
  · rw [List.concat_eq_append] at h hclosed ⊢
    rw [List.getLast?_concat] at hclosed
    have hl : l.Fits [] := (lexed_cons.1 h.of_append).1
    have hbehind : Lexed (l :: bs) := lexed_cons.2 ⟨hl.of_isClosed (hclosed l rfl) hstar, hbs⟩
    rw [List.append_assoc, List.singleton_append]
    refine h.replace hbehind ?_
    rw [flatten_cons, flatten_cons, hl.head?_append, hl.head?_append]

/-! ## One comment more -/

/-- The comment with a text in it. -/
def commentText (t : Text) : Text := '/' :: '*' :: (t ++ ['*', '/'])

/-- A stylesheet with a comment put in at an offset. -/
def commentedAt (css : Text) (i : Nat) (t : Text) : Text :=
  css.take i ++ (commentText t ++ css.drop i)

theorem sealed_commentText {t : Text} (ht : InComment t) :
    (Lexeme.comment (commentText t)).Sealed := by
  intro next
  refine Lexeme.fits_comment.2 ⟨t ++ ['*', '/'], rfl, ?_⟩
  rw [List.append_assoc]
  exact cutComment_inComment ht next

/-- Behind closed lexemes a comment is one more lexeme. -/
theorem Lexed.insert {as bs : List Lexeme} (h : Lexed (as ++ bs))
    (hclosed : ∀ l ∈ as.getLast?, l.isClosed = true) {t : Text} (ht : InComment t) :
    Lexed (as ++ .comment (commentText t) :: bs) := by
  have hbehind : Lexed (.comment (commentText t) :: bs) :=
    lexed_cons.2 ⟨sealed_commentText ht _, h.of_append⟩
  exact h.of_append_left.append hclosed hbehind (by simp [commentText, Lexeme.text])

/-- At an offset in no comment and no string, with all closed before it, a comment is one more lexeme. -/
theorem lex_commentedAt {css t : Text} {i : Nat} (hseam : IsSeam css i)
    (hclosed : ∀ e ∈ placed 0 (lex css), e.1 + e.2.text.length = i → e.2.isClosed = true)
    (ht : InComment t) :
    ∃ as bs, lex css = as ++ bs ∧
      lex (commentedAt css i t) = as ++ .comment (commentText t) :: bs := by
  have hlength : i ≤ 0 + (flatten (lex css)).length := by
    rw [flatten_lex, Nat.zero_add]
    exact hseam.1
  rcases exists_split (Nat.zero_le i) hlength hseam.2 with ⟨as, bs, hlex, hi⟩
  rw [Nat.zero_add] at hi
  have hlast : ∀ l ∈ as.getLast?, l.isClosed = true := by
    intro l hl
    rcases List.getLast?_eq_some_iff.1 hl with ⟨front, rfl⟩
    refine hclosed ((flatten front).length, l) ?_ ?_
    · rw [hlex, List.append_assoc, placed_append, Nat.zero_add]
      exact List.mem_append_right _ List.mem_cons_self
    · rw [← hi, flatten_append, List.length_append]
      simp
  have hcss : css = flatten as ++ flatten bs := by rw [← flatten_append, ← hlex, flatten_lex]
  have hall : Lexed (as ++ bs) := hlex ▸ lexed_lex css
  refine ⟨as, bs, hlex, ?_⟩
  have htext : commentedAt css i t = flatten (as ++ .comment (commentText t) :: bs) := by
    rw [commentedAt, hcss, ← hi, List.take_left, List.drop_left]
    simp [Lexeme.text]
  rw [htext]
  exact hall.insert hlast ht

/-! ## What blocks show -/

/-- Nothing for comments. -/
def uncommenting : Recoding where
  comment _ := []
  quoted t := t
  isFiller_comment := by simp
  head?_quoted _ := rfl

/-- What a block shows when comments are left out. -/
def Block.shown (b : Block) : Text × Text := (b.prelude, withoutComments b.body)

@[simp] theorem flatten_uncommenting (ls : List Lexeme) :
    flatten (uncommenting.lexemes ls) = visible ls := by
  induction ls with
  | nil => rfl
  | cons l ls ih =>
    rw [Recoding.lexemes_cons, flatten_append, ih, visible, visible, List.flatMap_cons]
    cases l <;> simp [uncommenting, Recoding.lexeme, Lexeme.visible, Lexeme.text]

@[simp] theorem visible_uncommenting (ls : List Lexeme) :
    visible (uncommenting.lexemes ls) = visible ls := by
  induction ls with
  | nil => rfl
  | cons l ls ih =>
    cases l <;> simpa [uncommenting, Recoding.lexeme, visible, Lexeme.visible] using ih

/-- What blocks show is what the blocks among the lexemes without comments are. -/
theorem map_shown_scan {ls : List Lexeme} (hlex : Lexed ls) (offset : Nat) :
    (scan offset ls).map Block.shown =
      (scan 0 (uncommenting.lexemes ls)).map fun b => (b.prelude, b.body) := by
  rcases exists_outlined hlex with ⟨ps, h⟩
  rw [h.scan_eq, (h.recode uncommenting).scan_eq, List.map_map, List.map_map, List.map_map]
  apply List.map_congr_left
  intro p hp
  have hbody : lex (flatten p.body) = p.body := h.lexed_body hlex hp
  simp [Block.shown, Passage.block, Passage.recode, withoutComments, hbody]

/-- A comment that is put in at an offset in no comment and no string, with all closed before it,
leaves what the blocks show. -/
theorem map_shown_commentedAt {css t : Text} {i : Nat} (hseam : IsSeam css i)
    (hclosed : ∀ e ∈ placed 0 (lex css), e.1 + e.2.text.length = i → e.2.isClosed = true)
    (ht : InComment t) :
    (blocks (commentedAt css i t)).map Block.shown = (blocks css).map Block.shown := by
  rcases lex_commentedAt hseam hclosed ht with ⟨as, bs, hlex, hlex'⟩
  rw [blocks, blocks, map_shown_scan (lexed_lex _), map_shown_scan (lexed_lex _), hlex, hlex']
  simp [uncommenting, Recoding.lexeme]

end GeneratedContent.Css
