import GeneratedContent.Proofs.Css.Joining
import GeneratedContent.Proofs.OrderedMap
import GeneratedContent.Proofs.Text.Blank
import GeneratedContent.Proofs.Text.Caseless
import GeneratedContent.Proofs.Text.Marks
import GeneratedContent.Style.Declaration
import Mathlib.Algebra.GroupWithZero.Nat
import Mathlib.Algebra.Order.BigOperators.Group.List
import Mathlib.Algebra.Order.Group.Nat

/-!
# Styles that read back

A style is written without quoting: its declarations come one after the other, with semicolons
between them. It reads back just when each of its declarations does so by itself and none but the last
leaves anything open that would swallow the next one (`Style.read_render_iff`). That there is no other
way to read it back, by one declaration making up for another, is seen by counting semicolons, colons
and slashes, of which reading adds none.
-/

namespace GeneratedContent

/-! ## Styles as lists of declarations -/

namespace Declaration

/-- The entry that a piece of a declaration list adds to a style. -/
def pair? (piece : Text) : Option (Text × Text) :=
  (ofPiece? piece).bind fun d =>
    if normalizeValue d.value = [] then none else some (d.property, normalizeValue d.value)

theorem foldl_apply (pieces : List Text) (s : Style) :
    (pieces.filterMap ofPiece?).foldl apply s = s.insertAll (pieces.filterMap pair?) := by
  induction pieces generalizing s with
  | nil => rfl
  | cons piece pieces ih =>
    cases hd : ofPiece? piece with
    | none =>
      have hentry : pair? piece = none := by rw [pair?, hd, Option.bind_none]
      rw [List.filterMap_cons_none hd, List.filterMap_cons_none hentry, ih]
    | some d =>
      rw [List.filterMap_cons_some hd, List.foldl_cons, ih]
      by_cases hvalue : normalizeValue d.value = []
      · have hentry : pair? piece = none := by
          rw [pair?, hd, Option.bind_some, if_pos hvalue]
        have happly : apply s d = s := if_pos hvalue
        rw [List.filterMap_cons_none hentry, happly]
      · have hentry : pair? piece = some (d.property, normalizeValue d.value) := by
          rw [pair?, hd, Option.bind_some, if_neg hvalue]
        have happly : apply s d = s.insert d.property (normalizeValue d.value) := if_neg hvalue
        rw [List.filterMap_cons_some hentry, happly]
        rfl

end Declaration

/-- A style is the map that the entries of its pieces describe. -/
theorem Style.read_eq_ofList (list : Text) : Style.read list =
    .ofList ((Css.splitTopLevel ';' (Css.withoutComments list)).filterMap Declaration.pair?) :=
  Declaration.foldl_apply _ _

/-! ## Marks that reading leaves out -/

namespace Declaration

theorem sublist_trim (s : Text) : (Text.trim s).Sublist s := by
  have hright : ∀ t : Text, (Text.trimRight t).Sublist t := by
    intro t
    have h := (List.dropWhile_sublist isBlank (l := t.reverse)).reverse
    rwa [List.reverse_reverse] at h
  exact (hright _).trans (List.dropWhile_sublist isBlank)

theorem sublist_afterImportance? {s rest : Text} (h : afterImportance? s = some rest) :
    rest.Sublist s := by
  unfold afterImportance? at h
  split at h
  · rename_i s
    rcases Text.exists_of_afterCaseless? h with ⟨taken, htrim, -⟩
    have hrest : rest.Sublist (Text.trimLeft s) := htrim ▸ List.sublist_append_right taken rest
    exact (hrest.trans (List.dropWhile_sublist isBlank)).cons _
  · exact absurd h (by simp)

theorem sublist_dropImportance (value : Text) : (dropImportance value).Sublist value := by
  fun_induction dropImportance value with
  | case1 => exact List.Sublist.refl _
  | case2 c s rest h ih => exact ih.trans (sublist_afterImportance? h)
  | case3 c s h ih => exact ih.cons_cons c

theorem marks_normalizeValue_le (value : Text) :
    Text.marks (normalizeValue value) ≤ Text.marks value :=
  Text.marks_le_of_sublist ((sublist_trim _).trans (sublist_dropImportance value))

/-- The colon of a declaration is neither in its property nor in its value. -/
theorem marks_of_pair? {piece : Text} {e : Text × Text} (h : pair? piece = some e) :
    Text.marks e.1 + 1 + Text.marks e.2 ≤ Text.marks piece := by
  rcases Option.bind_eq_some_iff.1 h with ⟨d, hd, he⟩
  have hvalue : (d.property, normalizeValue d.value) = e := by
    split at he
    · exact absurd he (by simp)
    · exact Option.some.inj he
  unfold ofPiece? at hd
  split at hd
  · exact absurd hd (by simp)
  · rename_i name value hcut
    simp only at hd
    split at hd
    · exact absurd hd (by simp)
    · obtain rfl := Option.some.inj hd
      have hname := (Text.marks_lower_le (Text.trim name)).trans
        (Text.marks_le_of_sublist (sublist_trim name))
      have hrest := marks_normalizeValue_le value
      have hcolon : isMark ':' = true := rfl
      rw [Text.cutAt?_eq hcut, Text.marks_append, Text.marks_cons, if_pos hcolon, ← hvalue]
      show Text.marks (Text.lower (Text.trim name)) + 1 + Text.marks (normalizeValue value) ≤ _
      omega

/-- A blank in front of a declaration does not count. -/
theorem pair?_blank (piece : Text) : pair? (' ' :: piece) = pair? piece := by
  have hpiece : ofPiece? (' ' :: piece) = ofPiece? piece := by
    have hblank : isBlank ' ' = true := rfl
    unfold ofPiece?
    rw [Text.cutAt?, if_neg (by decide)]
    cases Text.cutAt? ':' piece with
    | none => rfl
    | some cut =>
      show (if Text.lower (Text.trim (' ' :: cut.1)) = [] then none else _) = _
      rw [Text.trim_cons_blank cut.1 hblank]
  rw [pair?, hpiece, pair?]

end Declaration

namespace Css

/-- A comment has marks, so there is nothing missing where no mark is missing. -/
theorem withoutComments_cases (s : Text) :
    Text.marks (withoutComments s) < Text.marks s ∨ withoutComments s = s := by
  unfold withoutComments
  fun_induction lex s with
  | case1 => exact Or.inr rfl
  | case2 s ih =>
    left
    have hslash : isMark '/' = true := rfl
    have hparts := congrArg Text.marks (append_cutComment s)
    rw [Text.marks_append] at hparts
    have hrest : Text.marks (visible (lex (cutComment s).2)) ≤ Text.marks (cutComment s).2 := by
      rcases ih with h | h
      · exact Nat.le_of_lt h
      · rw [h]
    rw [Text.marks_cons, Text.marks_cons, if_pos hslash]
    show Text.marks (visible (lex (cutComment s).2)) < _
    omega
  | case3 c s hcomment hc ih =>
    have hparts := append_cutString c s
    show Text.marks (c :: (cutString c s).1 ++ visible (lex (cutString c s).2)) < _ ∨
      c :: (cutString c s).1 ++ visible (lex (cutString c s).2) = _
    rcases ih with h | h
    · left
      have hmarks := congrArg Text.marks hparts
      rw [Text.marks_append] at hmarks
      rw [List.cons_append, Text.marks_cons, Text.marks_cons, Text.marks_append]
      omega
    · right
      rw [h, List.cons_append, hparts]
  | case4 c s hcomment hc ih =>
    show Text.marks (c :: visible (lex s)) < _ ∨ c :: visible (lex s) = _
    rcases ih with h | h
    · left
      rw [Text.marks_cons, Text.marks_cons]
      omega
    · right
      rw [h]

end Css

/-! ## Pieces of the same text -/

theorem Style.render_eq (s : Style) :
    s.render = List.intercalate [';'] (Css.spaced (s.entries.map declarationText)) :=
  (Css.intercalate_spaced ';' _).symm

theorem marks_intercalate {ps : List Text} (hne : ps ≠ []) :
    Text.marks (List.intercalate [';'] ps) + 1 = (ps.map Text.marks).sum + ps.length := by
  induction ps with
  | nil => exact absurd rfl hne
  | cons p ps ih =>
    cases ps with
    | nil => simp
    | cons p' ps =>
      have hrest := ih (List.cons_ne_nil _ _)
      have hsemicolon : Text.marks [';'] = 1 := rfl
      rw [List.intercalate_cons_cons, Text.marks_append, Text.marks_append, hsemicolon,
        List.map_cons, List.sum_cons, List.length_cons]
      omega

/-- Two ways to part a text before a semicolon are the same if there are as many marks before it. -/
theorem append_semicolon_inj {p q s t : Text} (hmarks : Text.marks p = Text.marks q)
    (h : p ++ ';' :: s = q ++ ';' :: t) : p = q ∧ s = t := by
  have hsemicolon : isMark ';' = true := rfl
  have hstep : ∀ {p q : Text} {u : Text}, q = p ++ ';' :: u → Text.marks p < Text.marks q := by
    rintro p q u rfl
    rw [Text.marks_append, Text.marks_cons, if_pos hsemicolon]
    omega
  rcases List.append_eq_append_iff.1 h with ⟨u, hq, hs⟩ | ⟨u, hp, ht⟩
  · cases u with
    | nil => exact ⟨by rw [hq, List.append_nil], (List.cons.inj hs).2⟩
    | cons c u =>
      obtain rfl : ';' = c := (List.cons.inj hs).1
      have hlt := hstep hq
      omega
  · cases u with
    | nil => exact ⟨by rw [hp, List.append_nil], (List.cons.inj ht).2.symm⟩
    | cons c u =>
      obtain rfl : ';' = c := (List.cons.inj ht).1
      have hlt := hstep hp
      omega

/-- Pieces with at least the marks of other pieces, and no more in all, are those if the texts that
they make up are the same. -/
theorem eq_of_intercalate_eq {ps qs : List Text}
    (hle : List.Forall₂ (fun p q => Text.marks q ≤ Text.marks p) ps qs)
    (hsum : (ps.map Text.marks).sum ≤ (qs.map Text.marks).sum)
    (h : List.intercalate [';'] ps = List.intercalate [';'] qs) : ps = qs := by
  induction hle with
  | nil => rfl
  | @cons p q ps qs hpq hrest ih =>
    have hsums : (qs.map Text.marks).sum ≤ (ps.map Text.marks).sum := by
      apply List.Forall₂.sum_le_sum
      rw [List.forall₂_map_left_iff, List.forall₂_map_right_iff]
      exact hrest.flip
    rw [List.map_cons, List.map_cons, List.sum_cons, List.sum_cons] at hsum
    cases hrest with
    | nil =>
      rw [List.intercalate_singleton, List.intercalate_singleton] at h
      rw [h]
    | cons hpq' hrest' =>
      rw [List.intercalate_cons_cons, List.intercalate_cons_cons, List.append_assoc,
        List.append_assoc] at h
      rcases append_semicolon_inj (by omega) h with ⟨rfl, hjoin⟩
      rw [ih (by omega) hjoin]

/-! ## Counting -/

theorem sum_marks_entries_le (pieces : List Text) :
    ((pieces.filterMap Declaration.pair?).map fun e => Text.marks e.1 + Text.marks e.2).sum +
      (pieces.filterMap Declaration.pair?).length ≤ (pieces.map Text.marks).sum := by
  induction pieces with
  | nil => exact Nat.le_refl _
  | cons piece pieces ih =>
    rw [List.map_cons, List.sum_cons]
    cases h : Declaration.pair? piece with
    | none =>
      rw [List.filterMap_cons_none h]
      omega
    | some e =>
      have hmarks := Declaration.marks_of_pair? h
      rw [List.filterMap_cons_some h, List.map_cons, List.sum_cons, List.length_cons]
      omega

/-- No marks come up in the map that a list describes. -/
theorem sum_marks_ofList_le (es : List (Text × Text)) :
    ((OrderedMap.ofList es).entries.map fun e => Text.marks e.1 + Text.marks e.2).sum ≤
      (es.map fun e => Text.marks e.1 + Text.marks e.2).sum := by
  rcases OrderedMap.subperm_ofList es with ⟨l, hperm, hsub⟩
  rw [← (hperm.map _).sum_nat]
  exact (hsub.map _).sum_le_sum fun _ _ => Nat.zero_le _

theorem forall₂_of_length_filterMap {f : Text → Option (Text × Text)} {pieces : List Text}
    (h : pieces.length ≤ (pieces.filterMap f).length) :
    List.Forall₂ (fun piece e => f piece = some e) pieces (pieces.filterMap f) := by
  induction pieces with
  | nil => exact .nil
  | cons piece pieces ih =>
    have hle := List.length_filterMap_le f pieces
    cases hf : f piece with
    | none =>
      rw [List.filterMap_cons_none hf, List.length_cons] at h
      omega
    | some e =>
      rw [List.filterMap_cons_some hf, List.length_cons, List.length_cons] at h
      rw [List.filterMap_cons_some hf]
      exact .cons hf (ih (by omega))

theorem marks_declarationText (e : Text × Text) :
    Text.marks (Style.declarationText e) = Text.marks e.1 + 1 + Text.marks e.2 := by
  have hcolon : Text.marks ": ".toList = 1 := rfl
  rw [Style.declarationText, Text.marks_append, Text.marks_append, hcolon]

namespace Style

theorem map_marks_spaced (ts : List Text) :
    (Css.spaced ts).map Text.marks = ts.map Text.marks := by
  cases ts with
  | nil => rfl
  | cons t ts =>
    rw [Css.spaced, List.map_cons, List.map_map]
    rfl

theorem sum_marks_spaced (es : List (Text × Text)) :
    ((Css.spaced (es.map declarationText)).map Text.marks).sum =
      (es.map fun e => Text.marks e.1 + Text.marks e.2).sum + es.length := by
  rw [map_marks_spaced]
  induction es with
  | nil => rfl
  | cons e es ih =>
    have he := marks_declarationText e
    rw [List.map_cons, List.map_cons, List.sum_cons, List.map_cons, List.sum_cons, List.length_cons]
    omega

theorem marks_render {s : Style} (hne : s.entries ≠ []) : Text.marks s.render + 1 =
    ((Css.spaced (s.entries.map declarationText)).map Text.marks).sum + s.entries.length := by
  rcases List.exists_cons_of_ne_nil hne with ⟨e, es, hes⟩
  have hspaced : Css.spaced (s.entries.map declarationText) ≠ [] := by
    rw [hes]
    exact List.cons_ne_nil _ _
  have hlength := congrArg List.length (map_marks_spaced (s.entries.map declarationText))
  rw [List.length_map, List.length_map, List.length_map] at hlength
  rw [render_eq, marks_intercalate hspaced, hlength]

/-- Pieces that make up a style have at least the marks of its declarations. -/
theorem marks_spaced_le {ps : List Text} {es : List (Text × Text)}
    (h : List.Forall₂ (fun piece e => Declaration.pair? piece = some e) ps es) :
    List.Forall₂ (fun p q => Text.marks q ≤ Text.marks p) ps (Css.spaced (es.map declarationText)) := by
  have hmarks : ∀ {p : Text} {e : Text × Text}, Declaration.pair? p = some e →
      Text.marks (declarationText e) ≤ Text.marks p := fun {p e} hp =>
    (marks_declarationText e).trans_le (Declaration.marks_of_pair? hp)
  cases h with
  | nil => exact .nil
  | cons hp hrest =>
    refine .cons (hmarks hp) ?_
    rw [List.map_map, List.forall₂_map_right_iff]
    exact hrest.imp fun p e hp => hmarks hp

theorem pair?_of_spaced {es : List (Text × Text)}
    (h : List.Forall₂ (fun piece e => Declaration.pair? piece = some e)
      (Css.spaced (es.map declarationText)) es) :
    ∀ e ∈ es, Declaration.pair? (declarationText e) = some e := by
  cases es with
  | nil => exact fun e he => absurd he List.not_mem_nil
  | cons e es =>
    rcases List.forall₂_cons.1 h with ⟨he, hrest⟩
    rw [List.map_map, List.forall₂_map_left_iff, List.forall₂_same] at hrest
    rw [List.forall_mem_cons]
    refine ⟨he, fun d hd => ?_⟩
    have hd := hrest d hd
    rwa [Function.comp_apply, Declaration.pair?_blank] at hd

/-- In a style that reads back every declaration is a piece by itself, without comments. -/
theorem pieces_of_read {s : Style} (hne : s.entries ≠ []) (h : Style.read s.render = s) :
    (Css.withoutComments s.render = s.render ∧
        Css.splitTopLevel ';' s.render = Css.spaced (s.entries.map declarationText)) ∧
      ∀ e ∈ s.entries, Declaration.pair? (declarationText e) = some e := by
  have hjoin := Css.intercalate_splitTopLevel ';' (Css.withoutComments s.render)
  have hpieces : Css.splitTopLevel ';' (Css.withoutComments s.render) ≠ [] :=
    Css.splitLexemes_ne_nil _ _ _
  rw [read_eq_ofList] at h
  generalize hps : Css.splitTopLevel ';' (Css.withoutComments s.render) = ps at h hjoin hpieces
  -- there are at least as many pieces as declarations, and they have no more marks in all
  have hentries := (OrderedMap.subperm_ofList (ps.filterMap Declaration.pair?)).length_le
  have hsum := sum_marks_ofList_le (ps.filterMap Declaration.pair?)
  have hfewer := List.length_filterMap_le Declaration.pair? ps
  have hmarks := sum_marks_entries_le ps
  have hread := marks_intercalate hpieces
  have hspaced := sum_marks_spaced s.entries
  have hrender := marks_render hne
  rw [h] at hentries hsum
  rw [hjoin] at hread
  have hplain : Css.withoutComments s.render = s.render := by
    rcases Css.withoutComments_cases s.render with hlt | heq
    · omega
    · exact heq
  rw [hplain] at hread
  have hes : s.entries = ps.filterMap Declaration.pair? := by
    rw [← h]
    apply OrderedMap.entries_ofList_of_length_le
    rw [h]
    omega
  -- so every piece makes up one declaration, with just its marks
  have hlength : ps.length ≤ (ps.filterMap Declaration.pair?).length := by omega
  have hall := forall₂_of_length_filterMap hlength
  rw [← hes] at hall
  have hpseq : ps = Css.spaced (s.entries.map declarationText) := by
    apply eq_of_intercalate_eq (marks_spaced_le hall)
    · omega
    · rw [hjoin, hplain, render_eq]
  refine ⟨⟨hplain, ?_⟩, pair?_of_spaced (hpseq ▸ hall)⟩
  rw [← hpseq, ← hps, hplain]

end Style

/-! ## Declarations that stay apart -/

namespace Css

theorem sealed_semicolon : (Lexeme.single ';').Sealed := Lexeme.sealed_single rfl (by decide)

end Css

namespace Style

/-- Whether the declarations of a style stay apart when it is written. -/
structure Separable (s : Style) : Prop where
  /-- Each reads back by itself. -/
  alone : ∀ e ∈ s.entries, Style.read (declarationText e) = .ofList [e]
  /-- None but the last leaves anything open. -/
  ends : ∀ e ∈ s.entries.dropLast, Css.Ends ';' (declarationText e)

/-- The declarations of a style are the pieces of its text just when each is a piece and none but the
last leaves anything open. -/
theorem pieces_render_iff {s : Style} (hne : s.entries ≠ []) :
    (Css.withoutComments s.render = s.render ∧
        Css.splitTopLevel ';' s.render = Css.spaced (s.entries.map declarationText)) ↔
      (∀ e ∈ s.entries, Css.Whole ';' (declarationText e)) ∧
        ∀ e ∈ s.entries.dropLast, Css.Ends ';' (declarationText e) := by
  have hmap : s.entries.map declarationText ≠ [] := by simpa using hne
  have hpieces := Css.pieces_spaced_iff rfl rfl Css.sealed_semicolon hmap
  rw [← List.map_dropLast, List.forall_mem_map, List.forall_mem_map] at hpieces
  exact hpieces

theorem render_singleton (e : Text × Text) :
    render (.ofList [e]) = declarationText e := List.intercalate_singleton

/-- A declaration reads back by itself if it is one piece, without comments, that states it. -/
theorem read_declarationText_iff (e : Text × Text) :
    Style.read (declarationText e) = .ofList [e] ↔
      Css.Whole ';' (declarationText e) ∧ Declaration.pair? (declarationText e) = some e := by
  constructor
  · intro h
    have hentries : (OrderedMap.ofList [e]).entries = [e] := rfl
    have hpieces := pieces_of_read (s := .ofList [e]) (List.cons_ne_nil _ _)
      (by rw [render_singleton, h])
    rw [pieces_render_iff (List.cons_ne_nil _ _)] at hpieces
    exact ⟨hpieces.1.1 e List.mem_cons_self, hpieces.2 e List.mem_cons_self⟩
  · rintro ⟨hwhole, hentry⟩
    rw [read_eq_ofList, hwhole.plain, hwhole.piece, List.filterMap_cons_some hentry,
      List.filterMap_nil]

theorem filterMap_pair?_spaced {es : List (Text × Text)}
    (h : ∀ e ∈ es, Declaration.pair? (declarationText e) = some e) :
    (Css.spaced (es.map declarationText)).filterMap Declaration.pair? = es := by
  cases es with
  | nil => rfl
  | cons e es =>
    rw [List.forall_mem_cons] at h
    have hrest : (es.map fun e => ' ' :: declarationText e).filterMap Declaration.pair? = es := by
      rw [List.filterMap_map]
      have hsome : ∀ d ∈ es, (Declaration.pair? ∘ fun e => ' ' :: declarationText e) d = some d := by
        intro d hd
        rw [Function.comp_apply, Declaration.pair?_blank, h.2 d hd]
      rw [List.filterMap_congr hsome, List.filterMap_some]
    rw [List.map_cons, Css.spaced, List.filterMap_cons_some h.1, List.map_map]
    exact congrArg _ hrest

/-- A style reads back just when its declarations stay apart. -/
theorem read_render_iff (s : Style) : Style.read s.render = s ↔ s.Separable := by
  by_cases hne : s.entries = []
  · have hempty : s = .empty := OrderedMap.ext hne
    have hread : Style.read (render .empty) = .empty := by decide +kernel
    rw [hempty]
    exact ⟨fun _ => ⟨fun e he => absurd he List.not_mem_nil, fun e he => absurd he List.not_mem_nil⟩,
      fun _ => hread⟩
  · constructor
    · intro h
      rcases pieces_of_read hne h with ⟨hpieces, hentries⟩
      rcases (pieces_render_iff hne).1 hpieces with ⟨hwhole, hends⟩
      exact ⟨fun e he => (read_declarationText_iff e).2 ⟨hwhole e he, hentries e he⟩, hends⟩
    · rintro ⟨halone, hends⟩
      have hwhole : ∀ e ∈ s.entries, Css.Whole ';' (declarationText e) := fun e he =>
        ((read_declarationText_iff e).1 (halone e he)).1
      have hentries : ∀ e ∈ s.entries, Declaration.pair? (declarationText e) = some e := fun e he =>
        ((read_declarationText_iff e).1 (halone e he)).2
      rcases (pieces_render_iff hne).2 ⟨hwhole, hends⟩ with ⟨hplain, hpieces⟩
      rw [read_eq_ofList, hplain, hpieces, filterMap_pair?_spaced hentries]
      exact OrderedMap.ofList_entries s

end Style

end GeneratedContent
