import GeneratedContent.Proofs.Css.Closing
import GeneratedContent.Proofs.Css.Strings
import GeneratedContent.Proofs.Text.Letter
import GeneratedContent.Rule.Owner

/-!
# The name at the end of a selector

A selector that states nothing is replaced by the name that its last compound begins with. Compounds are
parted by blanks, combinators and commas, and those in strings and brackets part nothing
(`compounds`); they do part the runs of characters that the name is looked for in. So the name is read
off the last such run in the last compound, and only up to its first hyphen (`lastTag?_finalCompound`).
-/

namespace GeneratedContent

open Css

/-! ## Pieces that are parted further -/

namespace Text

variable {p : Char → Bool}

/-- A text in front of what is parted comes in front of its first piece. -/
theorem splitWhere_attach {s : Text} {pieces : List Text} (hne : pieces ≠ [])
    (h : splitWhere p s = pieces.flatMap (splitWhere p)) (t : Text) :
    splitWhere p (t ++ s) = (attach t pieces).flatMap (splitWhere p) := by
  rcases List.exists_cons_of_ne_nil hne with ⟨q, qs, rfl⟩
  rw [attach, List.flatMap_cons]
  rw [List.flatMap_cons] at h
  induction t with
  | nil => exact h
  | cons c t ih =>
    rw [List.cons_append, List.cons_append, splitWhere, splitWhere, ih]
    split
    · rfl
    · rcases List.exists_cons_of_ne_nil (splitWhere_ne_nil p (t ++ q)) with ⟨r, rs, hr⟩
      rw [hr]
      rfl

/-- The last of some pieces that is not empty. -/
def lastPiece? (pieces : List Text) : Option Text := (pieces.filter (!·.isEmpty)).getLast?

theorem ne_nil_of_lastPiece? {pieces : List Text} {w : Text} (h : lastPiece? pieces = some w) :
    w ∈ pieces ∧ w ≠ [] := by
  have hmem := List.mem_filter.1 (List.mem_of_getLast? h)
  exact ⟨hmem.1, by simpa using hmem.2⟩

/-- If there are only empty pieces, there are only empty pieces of them. -/
theorem lastPiece?_flatMap_of_none {pieces : List Text} (h : lastPiece? pieces = none) :
    lastPiece? (pieces.flatMap (splitWhere p)) = none := by
  rw [lastPiece?, List.getLast?_eq_none_iff, List.filter_eq_nil_iff] at h ⊢
  intro q hq
  rcases List.mem_flatMap.1 hq with ⟨piece, hpiece, hmem⟩
  obtain rfl : piece = [] := by simpa using h piece hpiece
  obtain rfl : q = [] := List.mem_singleton.1 hmem
  decide

/-- The last piece of all is the last piece of the last one, if that has a piece that is not empty. -/
theorem lastPiece?_flatMap {pieces : List Text} {w run : Text} (hw : lastPiece? pieces = some w)
    (hrun : lastPiece? (splitWhere p w) = some run) :
    lastPiece? (pieces.flatMap (splitWhere p)) = some run := by
  induction pieces with
  | nil => exact absurd hw (by simp [lastPiece?])
  | cons q pieces ih =>
    rw [List.flatMap_cons, lastPiece?, List.filter_append, List.getLast?_append]
    cases hrest : lastPiece? pieces with
    | some v =>
      have hv : v = w := by
        rw [lastPiece?] at hw hrest
        rw [List.filter_cons] at hw
        split at hw
        · rw [List.getLast?_cons, hrest] at hw
          exact Option.some.inj hw
        · exact Option.some.inj (hrest.symm.trans hw)
      rw [← lastPiece?, ih (hrest.trans (congrArg some hv)), Option.some_or]
    | none =>
      have hq : q = w := by
        rw [lastPiece?] at hw hrest
        rw [List.filter_cons] at hw
        split at hw
        · rw [List.getLast?_cons, hrest] at hw
          exact Option.some.inj hw
        · rw [hrest] at hw
          exact absurd hw (by simp)
      have hnone := lastPiece?_flatMap_of_none (p := p) hrest
      rw [lastPiece?] at hnone hrun
      rw [hnone, Option.none_or, hq, hrun]

/-- In a text that does not end with a mark, what stands behind the last mark is the last piece. -/
theorem lastPiece?_splitWhere {s : Text} (hne : s ≠ []) (hlast : ∀ c ∈ s.getLast?, p c = false) :
    lastPiece? (splitWhere p s) = some (behindLast p s) := by
  by_cases hmark : s.any p = true
  · rcases exists_last hmark with ⟨u, b, w, rfl, hb, hw⟩
    have hwne : w ≠ [] := by
      rintro rfl
      have hlastb := hlast b List.getLast?_concat
      rw [hb] at hlastb
      exact absurd hlastb (by decide)
    rw [splitWhere_append hb, splitWhere_of_forall hw, lastPiece?, List.filter_append,
      List.filter_cons_of_pos (by simpa using hwne), List.filter_nil, List.getLast?_concat,
      behindLast_append hb, behindLast_of_forall hw]
  · have hall : ∀ c ∈ s, p c = false := by simpa using hmark
    rw [splitWhere_of_forall hall, lastPiece?, List.filter_cons_of_pos (by simpa using hne),
      List.filter_nil, behindLast_of_forall hall]
    rfl

end Text

namespace Owner

/-! ## Compounds -/

/-- The compounds of a selector list, with `depth` brackets open in front: what stands between the
separators outside strings and brackets. -/
def compounds (depth : Nat) : Text → List Text
  | [] => [[]]
  | c :: s =>
    if isQuote c then Text.attach (c :: (cutString c s).1) (compounds depth (cutString c s).2)
    else if isSeparator c ∧ depth = 0 then [] :: compounds depth s
    else Text.attach [c] (compounds ((Lexeme.single c).depthAfter depth) s)
termination_by s => s.length
decreasing_by
  · have := length_cutString_le c s
    simp only [List.length_cons]
    omega
  · simp
  · simp

/-- The last compound of a selector list. -/
def finalCompound? (selector : Text) : Option Text := Text.lastPiece? (compounds 0 selector)

/-- Whether all strings and brackets of a text are closed, with `depth` brackets open in front. -/
def isClosed (depth : Nat) : Text → Bool
  | [] => depth == 0
  | c :: s =>
    if isQuote c then closesString c (cutString c s).1 && isClosed depth (cutString c s).2
    else isClosed ((Lexeme.single c).depthAfter depth) s
termination_by s => s.length
decreasing_by
  · have := length_cutString_le c s
    simp only [List.length_cons]
    omega
  · simp

theorem compounds_ne_nil (depth : Nat) (s : Text) : compounds depth s ≠ [] := by
  fun_cases compounds depth s <;> simp

/-- The runs between all separators are those of the compounds. -/
theorem splitWhere_compounds (depth : Nat) (s : Text) :
    Text.splitWhere isSeparator s = (compounds depth s).flatMap (Text.splitWhere isSeparator) := by
  fun_induction compounds depth s with
  | case1 depth => rfl
  | case2 depth c s hq ih =>
    have hsplit := Text.splitWhere_attach (compounds_ne_nil _ _) ih (c :: (cutString c s).1)
    rwa [List.cons_append, append_cutString] at hsplit
  | case3 depth c s hq hc ih =>
    rw [Text.splitWhere, if_pos hc.1, ih]
    rfl
  | case4 depth c s hq hc ih => exact Text.splitWhere_attach (compounds_ne_nil _ _) ih [c]

theorem isSeparator_of_isQuote {c : Char} (h : isQuote c = true) : isSeparator c = false := by
  rcases eq_of_isQuote h with rfl | rfl <;> decide

theorem depthAfter_of_isSeparator {c : Char} (h : isSeparator c = true) (depth : Nat) :
    (Lexeme.single c).depthAfter depth = depth := by
  have hbracket : ∀ d ∈ ['(', '[', ')', ']'], c ≠ d := by
    rintro d hd rfl
    have hnot : ∀ d ∈ ['(', '[', ')', ']'], (!isSeparator d) = true := List.all_eq_true.1 (by decide)
    have hc := hnot c hd
    rw [h] at hc
    exact absurd hc (by decide)
  have hopener : isOpener c = false := by simp [isOpener, hbracket]
  have hcloser : isCloser c = false := by simp [isCloser, hbracket]
  rw [Lexeme.depthAfter, hopener, hcloser]
  simp

/-- If all is closed, no compound ends with a separator, for this would stand outside of all strings
and brackets; and only outside of brackets does the text begin with an empty compound. -/
theorem getLast?_compounds {depth : Nat} {s : Text} (h : isClosed depth s = true) :
    (∀ w ∈ compounds depth s, ∀ c ∈ w.getLast?, isSeparator c = false) ∧
      ((compounds depth s).head? = some [] → depth = 0) := by
  fun_induction compounds depth s with
  | case1 depth =>
    rw [isClosed, beq_iff_eq] at h
    exact ⟨by simp, fun _ => h⟩
  | case2 depth c s hq ih =>
    rw [isClosed, if_pos hq, Bool.and_eq_true] at h
    rcases ih h.2 with ⟨hends, -⟩
    rcases List.exists_cons_of_ne_nil (compounds_ne_nil depth (cutString c s).2) with ⟨w, ws, hws⟩
    rw [hws, List.forall_mem_cons] at hends
    have hrest : StringRest c (cutString c s).1 (cutString c s).2 :=
      stringRest_of_cutString hq _ (by rw [append_cutString])
    have hquote : (c :: (cutString c s).1).getLast? = some c := by
      rw [List.getLast?_cons, hrest.getLast?_of_closesString hq h.1]
      rfl
    rw [hws, Text.attach, List.forall_mem_cons, List.head?_cons]
    refine ⟨⟨fun d hd => ?_, hends.2⟩, fun hnil => by simp at hnil⟩
    rw [List.getLast?_append, hquote] at hd
    cases hw : w.getLast? with
    | some e =>
      rw [hw] at hd
      exact hends.1 d (hw.trans hd)
    | none =>
      rw [hw] at hd
      obtain rfl := Option.some.inj hd
      exact isSeparator_of_isQuote hq
  | case3 depth c s hq hc ih =>
    rw [isClosed, if_neg hq, depthAfter_of_isSeparator hc.1] at h
    rw [List.forall_mem_cons]
    exact ⟨⟨by simp, (ih h).1⟩, fun _ => hc.2⟩
  | case4 depth c s hq hc ih =>
    rw [isClosed, if_neg hq] at h
    rcases ih h with ⟨hends, hfirst⟩
    rcases List.exists_cons_of_ne_nil
      (compounds_ne_nil ((Lexeme.single c).depthAfter depth) s) with ⟨w, ws, hws⟩
    rw [hws, List.forall_mem_cons] at hends
    rw [hws, List.head?_cons] at hfirst
    rw [hws, Text.attach, List.forall_mem_cons, List.head?_cons]
    refine ⟨⟨fun d hd => ?_, hends.2⟩, fun hnil => by simp at hnil⟩
    rw [List.singleton_append, List.getLast?_cons, Option.mem_some_iff] at hd
    cases hw : w.getLast? with
    | some e =>
      rw [hw, Option.getD_some] at hd
      exact hends.1 d (hw.trans (congrArg some hd))
    | none =>
      rw [hw, Option.getD_none] at hd
      obtain rfl := List.getLast?_eq_none_iff.1 hw
      have hdepth := hfirst rfl
      rw [← hd, Bool.eq_false_iff]
      intro hsep
      rw [depthAfter_of_isSeparator hsep] at hdepth
      exact hc ⟨hsep, hdepth⟩

/-! ## Names of elements -/

/-- Whether a character can be part of the name of an element. -/
def isTagPart (c : Char) : Bool := c.isAlphanum || c == '-'

/-- The name of an element that a compound begins with. -/
def typeName? (compound : Text) : Option Text :=
  if compound.head?.any Char.isAlpha then some (Text.lowerAscii (compound.takeWhile isTagPart))
  else none

/-- What stands in front of the first hyphen of a name. -/
def untilHyphen (name : Text) : Text := name.takeWhile (· != '-')

theorem toLower_ne_of_isAlphanum {c : Char} (h : c.isAlphanum = true) : c.toLower ≠ '-' :=
  forall_ascii (P := fun c => c.isAlphanum = true → c.toLower ≠ '-') (by decide)
    (toNat_lt_of_isAlphanum h) h

/-- The letters and digits in front of a text are what its name has in front of the first hyphen. -/
theorem lowerAscii_takeWhile (s : Text) :
    Text.lowerAscii (s.takeWhile Char.isAlphanum) =
      untilHyphen (Text.lowerAscii (s.takeWhile isTagPart)) := by
  induction s with
  | nil => rfl
  | cons c s ih =>
    by_cases hc : c.isAlphanum = true
    · have hpart : isTagPart c = true := by rw [isTagPart, hc, Bool.true_or]
      rw [List.takeWhile_cons_of_pos hc, List.takeWhile_cons_of_pos hpart, Text.lowerAscii,
        Text.lowerAscii, List.map_cons, List.map_cons, untilHyphen,
        List.takeWhile_cons_of_pos (by simpa using toLower_ne_of_isAlphanum hc)]
      exact congrArg (c.toLower :: ·) ih
    · rw [List.takeWhile_cons_of_neg hc]
      by_cases hyphen : c = '-'
      · rw [hyphen]
        rfl
      · rw [List.takeWhile_cons_of_neg (by simp [isTagPart, hc, hyphen])]
        rfl

/-- The tag is read off the last run of characters that are no separators. -/
theorem lastTag?_eq (selector : Text) :
    lastTag? selector =
      ((Text.lastPiece? (Text.splitWhere isSeparator selector)).bind typeName?).map untilHyphen := by
  rw [lastTag?, Text.lastPiece?]
  cases ((Text.splitWhere isSeparator selector).filter (!·.isEmpty)).getLast? with
  | none => rfl
  | some run =>
    rw [Option.bind_some, typeName?]
    simp only
    split
    · rw [Option.map_some, lowerAscii_takeWhile]
    · rfl

/-- The name that a closed selector is replaced by. There is none without a compound. Otherwise it is the
name that what stands behind the last separator in the last compound begins with, up to the first
hyphen. So for a last compound without separators it is the name that the compound begins with, if
there is no hyphen in this name. -/
theorem lastTag?_finalCompound {selector : Text} (h : isClosed 0 selector = true) :
    (finalCompound? selector = none → lastTag? selector = none) ∧
    ∀ w : Text, finalCompound? selector = some w →
      lastTag? selector = (typeName? (Text.behindLast isSeparator w)).map untilHyphen ∧
      (w.any isSeparator = false →
        (lastTag? selector = typeName? w ↔ ∀ name ∈ typeName? w, '-' ∉ name)) := by
  rw [lastTag?_eq, splitWhere_compounds 0 selector]
  constructor
  · intro hnone
    rw [Text.lastPiece?_flatMap_of_none hnone]
    rfl
  · intro w hw
    rcases Text.ne_nil_of_lastPiece? hw with ⟨hmem, hne⟩
    have hrun := Text.lastPiece?_splitWhere hne ((getLast?_compounds h).1 w hmem)
    rw [Text.lastPiece?_flatMap hw hrun, Option.bind_some]
    refine ⟨rfl, fun hnone => ?_⟩
    have hall : ∀ c ∈ w, isSeparator c = false := by simpa using hnone
    rw [Text.behindLast_of_forall hall]
    cases typeName? w with
    | none => simp
    | some name =>
      rw [Option.map_some, Option.some_inj, untilHyphen, List.takeWhile_eq_self_iff]
      simp [List.forall_mem_ne']

/-- Two selectors that state nothing. The comma in the brackets of the first one parts its arguments, and
the second one of them is taken for the name of an element. The name that the second one begins with
is cut at its hyphen. -/
theorem lastTag?_finalCompound_brackets :
    let bracketed := "ul li:unknown-state(a, b)".toList
    let hyphened := "ul > My-Item:unknown-state".toList
    (finalCompound? bracketed = some "li:unknown-state(a, b)".toList ∧
      typeName? "li:unknown-state(a, b)".toList = some "li".toList ∧
      lastTag? bracketed = some "b".toList) ∧
    (finalCompound? hyphened = some "My-Item:unknown-state".toList ∧
      typeName? "My-Item:unknown-state".toList = some "my-item".toList ∧
      lastTag? hyphened ≠ some "my-item".toList) := by
  intro bracketed hyphened
  have hbracketed : finalCompound? bracketed = some "li:unknown-state(a, b)".toList := by
    decide +kernel
  have hhyphened : finalCompound? hyphened = some "My-Item:unknown-state".toList := by decide +kernel
  refine ⟨⟨hbracketed, by decide, ?_⟩, hhyphened, by decide, ?_⟩
  · rw [((lastTag?_finalCompound (by decide +kernel)).2 _ hbracketed).1]
    decide
  · have hname : typeName? "My-Item:unknown-state".toList = some "my-item".toList := by decide
    rw [← hname]
    intro heq
    have hnot := (((lastTag?_finalCompound (by decide +kernel)).2 _ hhyphened).2 (by decide)).1 heq
    exact absurd (hnot _ hname) (by decide)

end Owner

end GeneratedContent
