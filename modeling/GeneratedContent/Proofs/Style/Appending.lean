import GeneratedContent.Proofs.Css.Splitting
import GeneratedContent.Proofs.Style.Separation

/-!
# Declarations appended to a style

Declarations are appended to the text of a style as it is written, with a semicolon between if there
is none. Where the written text leaves nothing open, also when its comments are left out, and the
declarations can stand in a style (`Declaration.Addable`), what is read from the longer text is the
style that was written with the declarations laid over it (`Style.read_appendTo`).
-/

namespace GeneratedContent

/-! ## Blanks behind a declaration -/

namespace Declaration

variable {w : Text}

/-- No blank is a letter of the word that marks importance. -/
theorem not_sameLetter_blank {c : Char} (hc : isBlank c = true) :
    ∀ l ∈ "important".toList, sameLetter l c = false := by
  have hall := forall_blank (P := fun c => "important".toList.all (!sameLetter · c) = true)
    (by decide +kernel) hc
  intro l hl
  simpa using List.all_eq_true.1 hall l hl

theorem afterImportance?_append_blank (s : Text) (hw : ∀ c ∈ w, isBlank c = true) :
    afterImportance? (s ++ w) = (afterImportance? s).map (· ++ w) := by
  have hnone : ∀ {t : Text}, t.head? ≠ some '!' → afterImportance? t = none := by
    intro t ht
    unfold afterImportance?
    split
    · simp at ht
    · rfl
  cases s with
  | nil =>
    -- a blank is no exclamation mark
    rw [List.nil_append, hnone, hnone]
    · rfl
    · simp
    · intro he
      exact absurd (hw _ (List.mem_of_head? he)) (by decide)
  | cons c s =>
    by_cases hc : c = '!'
    · rw [hc, List.cons_append, afterImportance?, afterImportance?, Text.trimLeft, Text.trimLeft,
        List.dropWhile_append]
      split
      · -- there are only blanks, in which there is no word
        rename_i h
        have hblank : w.dropWhile isBlank = [] := Text.trimLeft_of_blank hw
        rw [List.isEmpty_iff.1 h, hblank]
        rfl
      · exact Text.afterCaseless?_append_of_head
          (fun c hc => not_sameLetter_blank (hw c (List.mem_of_head? hc))) _
    · rw [List.cons_append, hnone (by simpa using hc), hnone (by simpa using hc), Option.map_none]

theorem dropImportance_cons (c : Char) (s : Text) :
    dropImportance (c :: s) =
      match afterImportance? (c :: s) with
      | some rest => dropImportance rest
      | none => c :: dropImportance s := by
  rw [dropImportance]
  split <;> simp_all

/-- Blanks have no mark of importance in them. -/
theorem dropImportance_of_blank (hw : ∀ c ∈ w, isBlank c = true) : dropImportance w = w := by
  induction w with
  | nil => rw [dropImportance]
  | cons c w ih =>
    have hnone : afterImportance? (c :: w) = none :=
      afterImportance?_append_blank [] hw
    rw [dropImportance_cons, hnone, ih fun d hd => hw d (List.mem_cons_of_mem _ hd)]

theorem dropImportance_append_blank (s : Text) (hw : ∀ c ∈ w, isBlank c = true) :
    dropImportance (s ++ w) = dropImportance s ++ w := by
  fun_induction dropImportance s with
  | case1 => exact dropImportance_of_blank hw
  | case2 c s rest h ih =>
    have hsome : afterImportance? (c :: (s ++ w)) = some (rest ++ w) := by
      rw [← List.cons_append, afterImportance?_append_blank _ hw, h, Option.map_some]
    rw [List.cons_append, dropImportance_cons, hsome]
    exact ih
  | case3 c s h ih =>
    have hnone : afterImportance? (c :: (s ++ w)) = none := by
      rw [← List.cons_append, afterImportance?_append_blank _ hw, h, Option.map_none]
    rw [List.cons_append, dropImportance_cons, hnone, ih, List.cons_append]

theorem normalizeValue_append_blank (v : Text) (hw : ∀ c ∈ w, isBlank c = true) :
    normalizeValue (v ++ w) = normalizeValue v := by
  rw [normalizeValue, normalizeValue, dropImportance_append_blank v hw, Text.trim_append_blank hw]

end Declaration

/-- Blanks behind a declaration do not count. -/
theorem Declaration.pair?_append_blank (piece : Text) {w : Text} (hw : ∀ c ∈ w, isBlank c = true) :
    pair? (piece ++ w) = pair? piece := by
  have hcolon : ':' ∉ w := fun h => absurd (hw _ h) (by decide)
  rw [pair?, pair?, ofPiece?, ofPiece?, Text.cutAt?_append piece hcolon]
  cases Text.cutAt? ':' piece with
  | none => rfl
  | some cut =>
    simp only [Option.map_some]
    split
    · rfl
    · simp only [Option.bind_some, normalizeValue_append_blank _ hw]

/-! ## Declarations that can be added -/

namespace Declaration

/-- The entries that a declaration list adds to a style, in order. -/
def pairs (list : Text) : List (Text × Text) :=
  (Css.splitTopLevel ';' (Css.withoutComments list)).filterMap pair?

/-- Whether a character is one that no name of an added declaration has. -/
def breaksName (c : Char) : Bool :=
  c == ':' || c == ';' || c == '/' || Css.isQuote c || Css.isOpener c || Css.isCloser c

/-- Whether a declaration, as a name and a value, can be added to any style. -/
structure Addable (e : Text × Text) : Prop where
  /-- There is a name. -/
  name_ne_nil : e.1 ≠ []
  /-- The name has no blanks at its ends. -/
  trim_name : Text.trim e.1 = e.1
  /-- The name is in lower case. -/
  lower_name : Text.lower e.1 = e.1
  /-- There are no colons, semicolons, slashes, quotes and brackets in the name. -/
  name_plain : ∀ c ∈ e.1, breaksName c = false
  /-- There is a value. -/
  value_ne_nil : e.2 ≠ []
  /-- The value has no blanks at its ends and no mark of importance. -/
  normalizeValue_value : normalizeValue e.2 = e.2
  /-- The strings and brackets of the value are closed. -/
  value_closed : Css.LeavesNothingOpen e.2
  /-- No comment and no semicolon stands in the value at its top level. -/
  value_whole : Css.Whole ';' e.2

instance (e : Text × Text) : Decidable (Addable e) :=
  decidable_of_iff
    ((e.1 ≠ [] ∧ Text.trim e.1 = e.1 ∧ Text.lower e.1 = e.1 ∧ e.1.any breaksName = false) ∧
      e.2 ≠ [] ∧ normalizeValue e.2 = e.2 ∧ Css.LeavesNothingOpen e.2 ∧
        Css.withoutComments e.2 = e.2 ∧ Css.splitTopLevel ';' e.2 = [e.2])
    ⟨fun ⟨⟨h₁, h₂, h₃, h₄⟩, h₅, h₆, h₇, h₈, h₉⟩ =>
        ⟨h₁, h₂, h₃, by simpa using h₄, h₅, h₆, h₇, ⟨h₈, h₉⟩⟩,
      fun h => ⟨⟨h.name_ne_nil, h.trim_name, h.lower_name, by simpa using h.name_plain⟩,
        h.value_ne_nil, h.normalizeValue_value, h.value_closed, h.value_whole.plain,
        h.value_whole.piece⟩⟩

/-- The text of single characters is read as these if none of them is a quote or a slash. -/
theorem lex_plain_append {front : Text} (h : ∀ c ∈ front, Css.isQuote c = false ∧ c ≠ '/')
    (s : Text) : Css.lex (front ++ s) = front.map .single ++ Css.lex s := by
  induction front with
  | nil => rfl
  | cons c front ih =>
    have hc := h c List.mem_cons_self
    rw [List.cons_append, Css.lex_single hc.1 (fun e => hc.2 e.1),
      ih fun d hd => h d (List.mem_cons_of_mem _ hd), List.map_cons, List.cons_append]

/-- Characters that neither separate nor nest are one piece, with no bracket open behind it. -/
theorem splitLexemes_plain {front : Text}
    (h : ∀ c ∈ front, c ≠ ';' ∧ Css.isOpener c = false ∧ Css.isCloser c = false) :
    Css.splitLexemes ';' 0 (front.map .single) = [front] ∧
      (front.map Css.Lexeme.single).foldl Css.Lexeme.depthAfter 0 = 0 := by
  induction front with
  | nil => exact ⟨rfl, rfl⟩
  | cons c front ih =>
    have hc := h c List.mem_cons_self
    have hrest := ih fun d hd => h d (List.mem_cons_of_mem _ hd)
    have hdepth : (Css.Lexeme.single c).depthAfter 0 = 0 := by
      simp [Css.Lexeme.depthAfter, hc.2.1, hc.2.2]
    constructor
    · rw [List.map_cons, Css.splitLexemes_cons (by simp [hc.1]), hdepth, hrest.1]
      rfl
    · rw [List.map_cons, List.foldl_cons, hdepth, hrest.2]

namespace Addable

variable {e : Text × Text} (h : Addable e)

include h

/-- What comes before the value neither quotes nor separates nor nests. -/
theorem front_plain : ∀ c ∈ e.1 ++ ": ".toList, Css.isQuote c = false ∧ c ≠ '/' ∧ c ≠ ';' ∧
    Css.isOpener c = false ∧ Css.isCloser c = false := by
  intro c hc
  rcases List.mem_append.1 hc with hname | hcolon
  · have hplain := h.name_plain c hname
    simp only [breaksName, Bool.or_eq_false_iff, beq_eq_false_iff_ne] at hplain
    tauto
  · rcases List.mem_pair.1 (show c ∈ [':', ' '] from hcolon) with rfl | rfl <;> decide

theorem lex_declarationText : Css.lex (Style.declarationText e) =
    (e.1 ++ ": ".toList).map .single ++ Css.lex e.2 :=
  lex_plain_append (fun c hc => ⟨(h.front_plain c hc).1, (h.front_plain c hc).2.1⟩) e.2

theorem splitLexemes_front :
    Css.splitLexemes ';' 0 ((e.1 ++ ": ".toList).map .single) = [e.1 ++ ": ".toList] ∧
      ((e.1 ++ ": ".toList).map Css.Lexeme.single).foldl Css.Lexeme.depthAfter 0 = 0 :=
  splitLexemes_plain fun c hc => (h.front_plain c hc).2.2

/-- The declaration is one piece, without comments. -/
theorem whole_declarationText : Css.Whole ';' (Style.declarationText e) := by
  constructor
  · have hfront : Css.visible ((e.1 ++ ": ".toList).map .single) = e.1 ++ ": ".toList := by
      simp [Css.visible, List.flatMap_map, Css.Lexeme.visible]
    have hvalue : Css.visible (Css.lex e.2) = e.2 := h.value_whole.plain
    rw [Css.withoutComments, h.lex_declarationText, Css.visible_append, hfront, hvalue]
    rfl
  · have hvalue : Css.splitLexemes ';' 0 (Css.lex e.2) = [e.2] := h.value_whole.piece
    have hfront : Css.splitLexemes ';' 0 ((e.1 ++ ": ".toList).map .single)
        = [] ++ [e.1 ++ ": ".toList] := h.splitLexemes_front.1
    rw [Css.splitTopLevel, h.lex_declarationText, Css.splitLexemes_append rfl hfront,
      h.splitLexemes_front.2, hvalue]
    rfl

/-- The declaration leaves nothing open. -/
theorem closed_declarationText : Css.LeavesNothingOpen (Style.declarationText e) := by
  constructor
  · intro l hl
    rw [h.lex_declarationText, List.getLast?_append] at hl
    have hvalue : (Css.lex e.2).getLast?.isSome = true := by
      have hne : Css.lex e.2 ≠ [] := by
        intro hnil
        have hflat := Css.flatten_lex e.2
        rw [hnil] at hflat
        exact h.value_ne_nil hflat.symm
      simpa using hne
    rw [Option.or_of_isSome hvalue] at hl
    exact h.value_closed.endsClosed l hl
  · rw [Css.openBrackets, h.lex_declarationText, List.foldl_append, h.splitLexemes_front.2]
    exact h.value_closed.openBrackets_eq

/-- A semicolon behind the declaration ends it. -/
theorem ends_declarationText : Css.Ends ';' (Style.declarationText e) :=
  (Css.ends_iff (by decide)).2 ⟨h.whole_declarationText.piece, h.closed_declarationText⟩

/-- The declaration states its name and its value. -/
theorem pair?_declarationText : pair? (Style.declarationText e) = some e := by
  have hcolon : ':' ∉ e.1 := by
    intro hmem
    exact absurd (h.name_plain ':' hmem) (by decide)
  have hcut : Text.cutAt? ':' (Style.declarationText e) = some (e.1, ' ' :: e.2) := by
    rw [Style.declarationText, List.append_assoc]
    exact Text.cutAt?_of_eq hcolon (' ' :: e.2)
  have hpiece : ofPiece? (Style.declarationText e) = some ⟨e.1, ' ' :: e.2⟩ := by
    rw [ofPiece?, hcut]
    simp only [h.trim_name, h.lower_name, if_neg h.name_ne_nil]
  have hvalue : normalizeValue (' ' :: e.2) = e.2 := by
    have hnone : afterImportance? (' ' :: e.2) = none := rfl
    rw [normalizeValue, dropImportance_cons, hnone]
    show Text.trim (' ' :: dropImportance e.2) = e.2
    rw [Text.trim_cons_blank _ (by decide)]
    exact h.normalizeValue_value
  rw [pair?, hpiece, Option.bind_some, hvalue, if_neg h.value_ne_nil]

end Addable

/-! ## What is read of more text -/

theorem pairs_blank (list : Text) : pairs (' ' :: list) = pairs list := by
  have hplain : Css.withoutComments (' ' :: list) = ' ' :: Css.withoutComments list := by
    rw [Css.withoutComments, Css.lex_single rfl (by simp)]
    rfl
  rw [pairs, hplain, Css.splitTopLevel_blank rfl rfl, pairs]
  rcases List.exists_cons_of_ne_nil (Css.splitLexemes_ne_nil ';' 0
    (Css.lex (Css.withoutComments list))) with ⟨p, ps, hps⟩
  rw [Css.splitTopLevel, hps]
  simp only [Text.attach, List.filterMap_cons, List.singleton_append, pair?_blank]

section Behind

variable {list next : Text} (hclosed : Css.EndsClosed list)
  (hopen : Css.LeavesNothingOpen (Css.withoutComments list))

include hclosed hopen

/-- Behind a text that leaves nothing open, the last piece goes on in the first one of what follows. -/
theorem pairs_append (hstar : next.head? ≠ some '*') (hplain : Css.withoutComments next = next)
    {ps : List Text} {p : Text}
    (hpieces : Css.splitTopLevel ';' (Css.withoutComments list) = ps ++ [p]) :
    pairs (list ++ next) =
      ps.filterMap pair? ++ (Text.attach p (Css.splitTopLevel ';' next)).filterMap pair? := by
  rw [pairs, Css.withoutComments_append hclosed hstar, hplain,
    Css.splitTopLevel_append rfl hopen hstar hpieces, List.filterMap_append]

/-- Blanks at the end are not read. -/
theorem pairs_append_blank (hnext : ∀ c ∈ next, isBlank c = true) :
    pairs (list ++ next) = pairs list := by
  have hblank : ∀ c ∈ next, Css.isQuote c = false ∧ c ≠ '/' ∧ c ≠ ';' ∧ Css.isOpener c = false ∧
      Css.isCloser c = false := fun c hc =>
    forall_blank (P := fun c => Css.isQuote c = false ∧ c ≠ '/' ∧ c ≠ ';' ∧
      Css.isOpener c = false ∧ Css.isCloser c = false) (by decide +kernel) (hnext c hc)
  have hstar : next.head? ≠ some '*' := by
    intro h
    exact absurd (hnext _ (List.mem_of_head? h)) (by decide)
  have hlex : Css.lex next = next.map .single := by
    simpa using lex_plain_append (fun c hc => ⟨(hblank c hc).1, (hblank c hc).2.1⟩) []
  have hplain : Css.withoutComments next = next := by
    rw [Css.withoutComments, hlex]
    simp [Css.visible, List.flatMap_map, Css.Lexeme.visible]
  have hpiece : Css.splitTopLevel ';' next = [next] := by
    rw [Css.splitTopLevel, hlex]
    exact (splitLexemes_plain fun c hc => (hblank c hc).2.2).1
  rcases Css.exists_splitTopLevel_eq ';' (Css.withoutComments list) with ⟨ps, p, hpieces⟩
  rw [pairs_append hclosed hopen hstar hplain hpieces, hpiece, pairs, hpieces,
    List.filterMap_append, Text.attach, List.filterMap_cons, List.filterMap_cons,
    pair?_append_blank p hnext]

/-- A semicolon ends what stands before it. -/
theorem pairs_append_semicolon (hplain : Css.withoutComments next = next) :
    pairs (list ++ ';' :: next) = pairs list ++ pairs next := by
  have hplain' : Css.withoutComments (';' :: next) = ';' :: next := by
    rw [Css.withoutComments, Css.lex_single rfl (by simp)]
    exact congrArg (';' :: ·) hplain
  rw [pairs, Css.withoutComments_append hclosed (by simp), hplain',
    Css.splitTopLevel_append_separator (by decide) hopen, List.filterMap_append, pairs, pairs, hplain]

/-- Behind a semicolon at the end everything is read as by itself. -/
theorem pairs_append_of_semicolon (hlast : list.getLast? = some ';')
    (hstar : next.head? ≠ some '*') (hplain : Css.withoutComments next = next) :
    pairs (list ++ next) = pairs list ++ pairs next := by
  have hnone : pair? [] = none := rfl
  have hlast' : (Css.withoutComments list).getLast? = some ';' := by
    rcases hclosed.exists_lex_eq hlast rfl (by decide) with ⟨ls, hlex⟩
    have hsemicolon : Css.visible [.single ';'] = [';'] := rfl
    rw [Css.withoutComments, hlex, Css.visible_append, hsemicolon, List.getLast?_concat]
  rcases Css.exists_splitTopLevel_of_getLast? hopen hlast' rfl rfl rfl (by decide) with
    ⟨ps, hpieces⟩
  rcases List.exists_cons_of_ne_nil (Css.splitLexemes_ne_nil ';' 0 (Css.lex next)) with
    ⟨q, qs, hqs⟩
  rw [pairs_append hclosed hopen hstar hplain hpieces, pairs, hpieces, pairs, hplain,
    Css.splitTopLevel, hqs]
  simp [Text.attach, hnone]

end Behind

end Declaration

namespace Style

variable {a : Style}

/-- Declarations that can be added are read back from their text, and there is no comment in it. -/
theorem pairs_render (ha : ∀ e ∈ a.entries, Declaration.Addable e) :
    Css.withoutComments a.render = a.render ∧ Declaration.pairs a.render = a.entries := by
  by_cases hne : a.entries = []
  · have hrender : a.render = [] := by rw [render, hne]; rfl
    rw [hrender, hne]
    decide +kernel
  · have hends : ∀ e ∈ a.entries.dropLast, Css.Ends ';' (declarationText e) := fun e he =>
      (ha e ((List.dropLast_sublist _).subset he)).ends_declarationText
    rcases (pieces_render_iff hne).2 ⟨fun e he => (ha e he).whole_declarationText, hends⟩ with
      ⟨hplain, hpieces⟩
    refine ⟨hplain, ?_⟩
    rw [Declaration.pairs, hplain, hpieces,
      filterMap_pair?_spaced fun e he => (ha e he).pair?_declarationText]

theorem read_eq_of_pairs {list : Text} {s : Style} {es : List (Text × Text)}
    (h : Declaration.pairs list = es ++ a.entries) (hs : .ofList es = s) :
    Style.read list = s.overlay a := by
  rw [read_eq_ofList, ← hs]
  show OrderedMap.ofList (Declaration.pairs list) = _
  rw [h, OrderedMap.ofList, OrderedMap.insertAll_append]
  rfl

/-- Where the text of a style leaves nothing open, with its comments and without them, declarations
that are appended to it are read as laid over the style, and the text stays in front of them as it is
written, but for blanks at its end. The appended declarations alone are read back as they are. -/
theorem read_appendTo {written : Text} (hclosed : Css.EndsClosed (Text.trimRight written))
    (hopen : Css.LeavesNothingOpen (Css.withoutComments (Text.trimRight written)))
    (ha : ∀ e ∈ a.entries, Declaration.Addable e) :
    Style.read (appendTo written a) = (Style.read written).overlay a ∧
      Text.trimRight written <+: appendTo written a ∧ Style.read a.render = a := by
  rcases pairs_render ha with ⟨hplain, hpairs⟩
  -- blanks at the end make no difference
  have hwritten : Declaration.pairs written = Declaration.pairs (Text.trimRight written) := by
    rcases Text.exists_trimRight_append written with ⟨w, hw, hblank⟩
    conv_lhs => rw [hw]
    exact Declaration.pairs_append_blank hclosed hopen hblank
  have hread : .ofList (Declaration.pairs (Text.trimRight written)) = Style.read written := by
    rw [← hwritten, read_eq_ofList]
    rfl
  have hback : Style.read a.render = a := by
    rw [read_eq_ofList]
    exact (congrArg OrderedMap.ofList hpairs).trans (OrderedMap.ofList_entries a)
  have hspaced : Declaration.pairs (' ' :: a.render) = a.entries := by
    rw [Declaration.pairs_blank, hpairs]
  have hplain' : Css.withoutComments (' ' :: a.render) = ' ' :: a.render := by
    rw [Css.withoutComments, Css.lex_single rfl (by simp)]
    exact congrArg (' ' :: ·) hplain
  unfold appendTo
  simp only
  split
  · -- there is nothing to append
    rename_i hnone
    have hentries : a.entries = [] := by
      rw [← hpairs, hnone]
      decide +kernel
    refine ⟨read_eq_of_pairs ?_ hread, List.prefix_rfl, hback⟩
    rw [hentries, List.append_nil]
  · split
    · rename_i hkept
      rw [hkept] at hread ⊢
      have hpairs' : Declaration.pairs a.render = [] ++ a.entries := hpairs
      exact ⟨read_eq_of_pairs hpairs' (by
        rw [← hread]
        decide +kernel), List.nil_prefix, hback⟩
    · split
      · rename_i hlast
        refine ⟨read_eq_of_pairs ?_ hread, List.prefix_append _ _, hback⟩
        rw [Declaration.pairs_append_of_semicolon hclosed hopen hlast (by simp) hplain', hspaced]
      · rw [List.append_assoc]
        refine ⟨read_eq_of_pairs ?_ hread, List.prefix_append _ _, hback⟩
        show Declaration.pairs (_ ++ ';' :: ' ' :: a.render) = _
        rw [Declaration.pairs_append_semicolon hclosed hopen hplain', hspaced]

/-- A style with a semicolon in a string and a comment at its end. Of the appended declarations one
is new, and one has a property that is written already. -/
theorem read_appendTo_url :
    let written := "color: red; background: url(\"a;b\") /* ; */ ".toList
    let a : Style := .ofList [("position".toList, "relative".toList),
      ("color".toList, "rgb(0, 0, 0)".toList)]
    Css.EndsClosed (Text.trimRight written) ∧
      Css.LeavesNothingOpen (Css.withoutComments (Text.trimRight written)) ∧
      (∀ e ∈ a.entries, Declaration.Addable e) ∧
      appendTo written a = "color: red; background: url(\"a;b\") /* ; */; ".toList ++
        "position: relative; color: rgb(0, 0, 0)".toList ∧
      (Style.read (appendTo written a)).entries =
        [("color".toList, "rgb(0, 0, 0)".toList), ("background".toList, "url(\"a;b\")".toList),
          ("position".toList, "relative".toList)] := by
  intro written a
  have hclosed : Css.EndsClosed (Text.trimRight written) := by decide +kernel
  have hopen : Css.LeavesNothingOpen (Css.withoutComments (Text.trimRight written)) := by
    decide +kernel
  have ha : ∀ e ∈ a.entries, Declaration.Addable e := by decide +kernel
  refine ⟨hclosed, hopen, ha, by decide +kernel, ?_⟩
  rw [(read_appendTo hclosed hopen ha).1]
  decide +kernel

end Style

end GeneratedContent
