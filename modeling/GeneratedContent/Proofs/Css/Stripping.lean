import GeneratedContent.Proofs.Css.Commenting
import GeneratedContent.Proofs.Css.Joining

/-!
# Leaving comments out twice

Where a comment is left out, what stood on its two sides is joined. A slash and a star that only
comments keep apart (`Bridged`) become the opening of a new comment then, which runs over what follows.
They are all that can go wrong: without them the lexemes that are left are those of the text that they
make up (`lex_withoutComments`), so that leaving comments out a second time changes nothing, and a text
is split at the top level as well before as after its comments are left out. With them the second time
always takes something away (`length_withoutComments_lt`), and the pieces are the same just when each
of them is one piece still and all but the last leave nothing open.
-/

namespace GeneratedContent.Css

/-! ## Lexemes that are no comments -/

/-- Whether a lexeme is a comment. -/
def Lexeme.isComment : Lexeme → Bool
  | .comment _ => true
  | _ => false

/-- The lexemes that are no comments. -/
def uncommented (ls : List Lexeme) : List Lexeme := ls.filter (!·.isComment)

/-- Whether lexemes have a slash and a star with nothing but comments between them. -/
def Bridged (ls : List Lexeme) : Prop := [.single '/', .single '*'] <:+: uncommented ls

instance (ls : List Lexeme) : Decidable (Bridged ls) := inferInstanceAs (Decidable (_ <:+: _))

section Lexemes

variable {l : Lexeme} {ls : List Lexeme}

@[simp] theorem uncommented_nil : uncommented [] = [] := rfl

theorem uncommented_cons (hl : l.isComment = false) (ls : List Lexeme) :
    uncommented (l :: ls) = l :: uncommented ls := by
  simp [uncommented, hl]

theorem Lexeme.visible_eq_text (hl : l.isComment = false) : l.visible = l.text := by
  cases l with
  | comment t => simp [isComment] at hl
  | quoted t => rfl
  | single c => rfl

theorem Lexeme.eq_comment_or (l : Lexeme) : (∃ t, l = .comment t) ∨ l.isComment = false := by
  cases l with
  | comment t => exact Or.inl ⟨t, rfl⟩
  | quoted t => exact Or.inr rfl
  | single c => exact Or.inr rfl

/-- Leaving comments out lexeme by lexeme leaves these. -/
theorem lexemes_uncommenting (ls : List Lexeme) : uncommenting.lexemes ls = uncommented ls := by
  induction ls with
  | nil => rfl
  | cons l ls ih =>
    rw [Recoding.lexemes_cons, ih]
    cases l with
    | comment t => rfl
    | quoted t => rfl
    | single c => rfl

/-- What is left has the text that shows. -/
theorem flatten_uncommented (ls : List Lexeme) : flatten (uncommented ls) = visible ls := by
  rw [← lexemes_uncommenting, flatten_uncommenting]

theorem visible_uncommented (ls : List Lexeme) : visible (uncommented ls) = visible ls := by
  rw [← lexemes_uncommenting, visible_uncommenting]

/-- A slash and a star come together at the front, or further behind. -/
theorem bridged_cons (hl : l.isComment = false) :
    Bridged (l :: ls) ↔
      (l = .single '/' ∧ (uncommented ls).head? = some (.single '*')) ∨ Bridged ls := by
  rw [Bridged, Bridged, uncommented_cons hl, List.infix_cons_iff, List.cons_prefix_cons,
    List.singleton_prefix_iff_head?_eq_some, eq_comm (a := Lexeme.single '/')]

/-! ## What is left reads back -/

/-- A string that other text than a line break follows is closed, and ends before any text. -/
theorem StringRest.of_head {q c : Char} {u next : Text} (h : StringRest q u next)
    (hhead : next.head? = some c) (hc : c ≠ '\n') (next' : Text) : StringRest q u next' := by
  induction h with
  | unclosed h => exact absurd (h c hhead) hc
  | closed => exact StringRest.closed
  | escape h ih => exact StringRest.escape (ih hhead)
  | loneEscape => simp at hhead
  | plain hb hq hn h ih => exact StringRest.plain hb hq hn (ih hhead)

/-- Only a star by itself shows a star first. -/
theorem head?_uncommented (hls : Lexed ls) (hstar : (visible ls).head? = some '*') :
    (uncommented ls).head? = some (.single '*') := by
  induction ls with
  | nil => simp [visible] at hstar
  | cons l ls ih =>
    rcases lexed_cons.1 hls with ⟨hl, hrest⟩
    cases l with
    | comment t => exact ih hrest hstar
    | quoted t =>
      rcases Lexeme.fits_quoted.1 hl with ⟨q, u, hq, rfl, -⟩
      obtain rfl : q = '*' := by simpa [Lexeme.visible] using hstar
      exact absurd hq (by decide)
    | single c =>
      obtain rfl : c = '*' := by simpa [Lexeme.visible] using hstar
      rw [uncommented_cons rfl, List.head?_cons]

/-- A lexeme is read off before what is left of the others, unless it makes a comment with it. -/
theorem fits_visible (h : l.Fits (flatten ls)) (hls : Lexed ls) (hl : l.isComment = false)
    (hseam : ¬ (l = .single '/' ∧ (uncommented ls).head? = some (.single '*'))) :
    l.Fits (visible ls) := by
  cases ls with
  | nil => exact h
  | cons k ls =>
    have hk := (lexed_cons.1 hls).1
    cases k with
    | comment t =>
      rcases Lexeme.fits_comment.1 hk with ⟨u, rfl, -⟩
      -- a comment begins with a slash, which ends no string and tells nothing about a star
      cases l with
      | comment t => simp [Lexeme.isComment] at hl
      | quoted t =>
        rcases Lexeme.fits_quoted.1 h with ⟨q, v, hq, rfl, hv⟩
        exact Lexeme.fits_quoted.2 ⟨q, v, hq, rfl, hv.of_head rfl (by decide) _⟩
      | single c =>
        refine Lexeme.fits_single.2 ⟨(Lexeme.fits_single.1 h).1, ?_⟩
        rintro ⟨rfl, hstar⟩
        exact hseam ⟨rfl, head?_uncommented hls hstar⟩
    | quoted t =>
      rcases Lexeme.fits_quoted.1 hk with ⟨q, u, -, rfl, -⟩
      exact h.congr rfl
    | single c => exact h.congr rfl

/-- Without a slash and a star that come together, the lexemes that are left read back. -/
theorem lexed_uncommented (hls : Lexed ls) (hseam : ¬ Bridged ls) : Lexed (uncommented ls) := by
  induction ls with
  | nil => exact lexed_nil
  | cons l ls ih =>
    rcases lexed_cons.1 hls with ⟨hfits, hrest⟩
    rcases l.eq_comment_or with ⟨t, rfl⟩ | hl
    · exact ih hrest hseam
    · rw [bridged_cons hl, not_or] at hseam
      rw [uncommented_cons hl, lexed_cons, flatten_uncommented]
      exact ⟨fits_visible hfits hrest hl hseam.1, ih hrest hseam.2⟩

/-- With them, something of what is left is a comment. -/
theorem length_visible_lex_lt (hls : Lexed ls) (hseam : Bridged ls) :
    (visible (lex (visible ls))).length < (visible ls).length := by
  induction ls with
  | nil => simp [Bridged] at hseam
  | cons l ls ih =>
    rcases lexed_cons.1 hls with ⟨hfits, hrest⟩
    rcases l.eq_comment_or with ⟨t, rfl⟩ | hl
    · exact ih hrest hseam
    · rw [visible_cons, Lexeme.visible_eq_text hl]
      by_cases hhere : l = .single '/' ∧ (uncommented ls).head? = some (.single '*')
      · -- the two open a comment here, which shows nothing of itself
        rcases hhere with ⟨rfl, hstar⟩
        obtain ⟨rest, hstar⟩ := List.head?_eq_some_iff.1 hstar
        have hvisible : visible ls = '*' :: flatten rest := by
          rw [← flatten_uncommented, hstar, flatten_cons]
          rfl
        have hcut := length_cutComment_le (flatten rest)
        have hshown := length_visible_le (lex (cutComment (flatten rest)).2)
        rw [flatten_lex] at hshown
        have hlex : lex ('/' :: '*' :: flatten rest) =
            .comment ('/' :: '*' :: (cutComment (flatten rest)).1) ::
              lex (cutComment (flatten rest)).2 := lex_comment _
        rw [hvisible, Lexeme.text_single, List.singleton_append, hlex, visible_cons]
        simp only [Lexeme.visible, List.nil_append, List.length_cons]
        omega
      · -- the lexeme stays what it is, and the two come together further behind
        have hbehind := ih hrest (((bridged_cons hl).1 hseam).resolve_left hhere)
        have hhead : lex (l.text ++ visible ls) = l :: lex (visible ls) :=
          fits_visible hfits hrest hl hhere
        rw [hhead, visible_cons, Lexeme.visible_eq_text hl, List.length_append, List.length_append]
        omega

end Lexemes

/-! ## Texts without their comments -/

section Texts

variable {s : Text}

/-- The lexemes of a text without its comments are those that were no comments. -/
theorem lex_withoutComments (h : ¬ Bridged (lex s)) :
    lex (withoutComments s) = uncommented (lex s) := by
  have hlexed := lexed_uncommented (lexed_lex s) h
  rwa [Lexed, flatten_uncommented] at hlexed

theorem length_withoutComments_lt (h : Bridged (lex s)) :
    (withoutComments (withoutComments s)).length < (withoutComments s).length :=
  length_visible_lex_lt (lexed_lex s) h

/-- Comments are left out once and for all just when no slash and star come together. -/
theorem withoutComments_withoutComments_iff :
    withoutComments (withoutComments s) = withoutComments s ↔ ¬ Bridged (lex s) := by
  constructor
  · intro h hseam
    have hlt := length_withoutComments_lt hseam
    rw [h] at hlt
    exact absurd hlt (Nat.lt_irrefl _)
  · intro h
    rw [withoutComments, lex_withoutComments h, visible_uncommented, withoutComments]

end Texts

/-! ## Pieces without their comments -/

section Pieces

variable {sep : Char}

/-- The first piece begins as the whole text does, unless it is empty. -/
theorem head?_of_splitLexemes (hsep : isOpener sep = false) {depth : Nat} {ls : List Lexeme}
    (hls : Lexed ls) {p : Text} {ps : List Text} (h : splitLexemes sep depth ls = p :: ps) :
    p = [] ∨ p.head? = (flatten ls).head? := by
  cases ls with
  | nil =>
    rw [splitLexemes] at h
    exact Or.inl (List.cons.inj h).1.symm
  | cons l ls =>
    by_cases hl : l = .single sep ∧ depth = 0
    · rcases hl with ⟨rfl, rfl⟩
      rw [splitLexemes_separator hsep] at h
      exact Or.inl (List.cons.inj h).1.symm
    · rw [splitLexemes_cons hl] at h
      rcases List.exists_cons_of_ne_nil (splitLexemes_ne_nil sep (l.depthAfter depth) ls) with
        ⟨q, qs, hq⟩
      rw [hq] at h
      obtain rfl : l.text ++ q = p := (List.cons.inj h).1
      refine Or.inr ?_
      rcases List.exists_cons_of_ne_nil (lexed_cons.1 hls).1.text_ne_nil with ⟨c, u, hu⟩
      simp [hu]

/-- The pieces without their comments are the pieces of the lexemes that are no comments. -/
theorem map_withoutComments_splitLexemes (hsep : isOpener sep = false) (depth : Nat)
    {ls : List Lexeme} (hls : Lexed ls) :
    (splitLexemes sep depth ls).map withoutComments = splitLexemes sep depth (uncommented ls) := by
  induction ls generalizing depth with
  | nil => simp [splitLexemes, withoutComments, visible]
  | cons l ls ih =>
    rcases lexed_cons.1 hls with ⟨hl, hrest⟩
    by_cases hmark : l = .single sep ∧ depth = 0
    · rcases hmark with ⟨rfl, rfl⟩
      rw [splitLexemes_separator hsep, uncommented_cons rfl, splitLexemes_separator hsep,
        List.map_cons, ih 0 hrest]
      simp [withoutComments, visible]
    · rcases List.exists_cons_of_ne_nil (splitLexemes_ne_nil sep (l.depthAfter depth) ls) with
        ⟨p, ps, hpieces⟩
      -- the first piece goes on as the text does, so that the lexeme is read off before it too
      have hfits : l.Fits p := by
        rcases head?_of_splitLexemes hsep hrest hpieces with rfl | hhead
        · exact hl.fits_nil
        · exact hl.congr hhead.symm
      have hfirst : withoutComments (l.text ++ p) = l.visible ++ withoutComments p := by
        rw [withoutComments, hfits, visible_cons, withoutComments]
      have hmap := ih (l.depthAfter depth) hrest
      rw [hpieces, List.map_cons] at hmap
      rw [splitLexemes_cons hmark, hpieces, Text.attach, List.map_cons, hfirst]
      cases l with
      | comment t => exact hmap
      | quoted t => rw [uncommented_cons rfl, splitLexemes_cons hmark, ← hmap]; rfl
      | single c => rw [uncommented_cons rfl, splitLexemes_cons hmark, ← hmap]; rfl

theorem map_withoutComments_splitTopLevel (hsep : isOpener sep = false) (s : Text) :
    (splitTopLevel sep s).map withoutComments = splitLexemes sep 0 (uncommented (lex s)) :=
  map_withoutComments_splitLexemes hsep 0 (lexed_lex s)

/-- Without a slash and a star that come together, a text is split as well before as after its comments
are left out. -/
theorem splitTopLevel_withoutComments (hsep : isOpener sep = false) {s : Text}
    (h : ¬ Bridged (lex s)) :
    splitTopLevel sep (withoutComments s) = (splitTopLevel sep s).map withoutComments := by
  rw [map_withoutComments_splitTopLevel hsep, splitTopLevel, lex_withoutComments h]

/-- The pieces without their comments, joined again, are the text without its comments. -/
theorem intercalate_map_withoutComments (hsep : isOpener sep = false) (s : Text) :
    List.intercalate [sep] ((splitTopLevel sep s).map withoutComments) = withoutComments s := by
  rw [map_withoutComments_splitTopLevel hsep, intercalate_splitLexemes, flatten_uncommented,
    withoutComments]

end Pieces

/-- Leaving comments out a second time changes nothing just when no slash and star come together. In
that case a text is also split into declarations as well before as after its comments are left out, and
in every case it is just when each piece is one piece still and all but the last leave nothing open. -/
theorem withoutComments_stable_iff (s : Text) :
    (withoutComments (withoutComments s) = withoutComments s ↔ ¬ Bridged (lex s)) ∧
      (¬ Bridged (lex s) →
        splitTopLevel ';' (withoutComments s) = (splitTopLevel ';' s).map withoutComments) ∧
      (splitTopLevel ';' (withoutComments s) = (splitTopLevel ';' s).map withoutComments ↔
        (∀ t ∈ (splitTopLevel ';' s).map withoutComments, splitTopLevel ';' t = [t]) ∧
          ∀ t ∈ ((splitTopLevel ';' s).map withoutComments).dropLast, Ends ';' t) := by
  have hsep : isOpener ';' = false := by decide
  have hsealed : (Lexeme.single ';').Sealed := Lexeme.sealed_single (by decide) (by decide)
  have hne : (splitTopLevel ';' s).map withoutComments ≠ [] := by
    simpa [splitTopLevel] using splitLexemes_ne_nil ';' 0 (lex s)
  refine ⟨withoutComments_withoutComments_iff, splitTopLevel_withoutComments hsep, ?_⟩
  have hiff := splitTopLevel_intercalate_iff hsep hsealed hne
  rwa [intercalate_map_withoutComments hsep] at hiff

/-- With a blank between the slash and the star, the two declarations stay apart. -/
theorem withoutComments_stable_apart :
    ¬ Bridged (lex "a: 1//**/ *; color: red".toList) ∧
      splitTopLevel ';' (withoutComments "a: 1//**/ *; color: red".toList) =
        (splitTopLevel ';' "a: 1//**/ *; color: red".toList).map withoutComments := by
  have hseam : ¬ Bridged (lex "a: 1//**/ *; color: red".toList) := by decide +kernel
  exact ⟨hseam, (withoutComments_stable_iff _).2.1 hseam⟩

-- without the blank, the new comment takes in the second declaration
example :
    splitTopLevel ';' (withoutComments "a: 1//**/*; color: red".toList) =
      ["a: 1/*; color: red".toList] := by
  decide +kernel

end GeneratedContent.Css
