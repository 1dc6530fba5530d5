import GeneratedContent.Proofs.Html.Lexing
import GeneratedContent.Proofs.Html.Tidying

/-!
# Nodes that are read as they are written

Not every page comes back as it was written: white space shrinks when it is read, a comment may end
inside itself, and the name of an element may rule out its content. A node is canonical when nothing
of this kind is in it. Canonical nodes are read as the events that they are written as, whatever is
written around them (`Node.readsAll`). Document types, declarations and marked sections are not
canonical: the line break behind a document type is read as text, and a declaration as an
instruction.
-/

namespace GeneratedContent.Html

open Event

/-! ## Canonical nodes -/

/-- Whether a text is kept when it is read, inside an element that keeps its blanks or not. -/
def Stays (keeping : Bool) (s : Text) : Prop :=
  s.all isSpace = true → keeping = true ∨ s = ['\n'] ∨ s = [' ']

instance (keeping : Bool) (s : Text) : Decidable (Stays keeping s) :=
  inferInstanceAs (Decidable (_ → _))

/-- Whether attributes are written as they are, and read as they are written. -/
structure Attributes.Canonical (element : Text) (a : Attributes) : Prop where
  /-- No encoding is put in the place of a stated one. -/
  written : writtenAttributes element a = a.entries
  /-- The names can be read. -/
  names : ∀ e ∈ a.entries, AttributeName e.1
  /-- The names are in lower case for the order that they are written in, too. -/
  lowered : a.Lowered
  /-- There is one space between the words of a list. -/
  values : ∀ e ∈ a.entries, isWordList element e.1 = true → Text.collapseBlanks e.2 = e.2

instance (element : Text) (a : Attributes) : Decidable (a.Canonical element) :=
  decidable_of_iff (writtenAttributes element a = a.entries ∧ (∀ e ∈ a.entries, AttributeName e.1) ∧
      a.Lowered ∧ ∀ e ∈ a.entries, isWordList element e.1 = true → Text.collapseBlanks e.2 = e.2)
    ⟨fun ⟨h₁, h₂, h₃, h₄⟩ => ⟨h₁, h₂, h₃, h₄⟩, fun ⟨h₁, h₂, h₃, h₄⟩ => ⟨h₁, h₂, h₃, h₄⟩⟩

/-- Whether an aside ends where it is meant to. -/
def Aside.Canonical : Aside → Text → Prop
  | .comment, content => cutWhere? afterCommentEnd? content = none
  | .instruction, content => '>' ∉ content
  | _, _ => False

/-- Whether nodes are the content of an element with raw text. -/
def RawContent : List Node → Prop
  | [] => True
  | [.text content] => ¬ ['<', '/'] <:+: content
  | _ => False

/-- Whether nodes begin with text. -/
def startsWithText : List Node → Bool
  | .text _ :: _ => true
  | _ => false

mutual

/-- Whether a node is read as it is written. -/
def Node.Canonical (keeping : Bool) : Node → Prop
  | .text content => content ≠ [] ∧ Stays keeping content
  | .aside kind content => kind.Canonical content ∧ Stays keeping content
  | .element _ name attributes children =>
    TagName name ∧ attributes.Canonical name ∧ (isVoid name = true → children = []) ∧
      (isRawText name = true → RawContent children) ∧
      Node.CanonicalAll (keeping || keepsBlanks name) children

/-- Whether nodes are read as they are written, one after the other. No two texts are neighbours. -/
def Node.CanonicalAll (keeping : Bool) : List Node → Prop
  | [] => True
  | n :: ns =>
    Node.Canonical keeping n ∧ (startsWithText [n] && startsWithText ns) = false ∧
      Node.CanonicalAll keeping ns

end

instance (kind : Aside) (content : Text) : Decidable (kind.Canonical content) :=
  match kind with
  | .comment => inferInstanceAs (Decidable (_ = _))
  | .instruction => inferInstanceAs (Decidable (_ ∉ _))
  | .documentType | .declaration | .characterData => inferInstanceAs (Decidable False)

instance (ns : List Node) : Decidable (RawContent ns) :=
  match ns with
  | [] => inferInstanceAs (Decidable True)
  | [.text _] => inferInstanceAs (Decidable (¬ _))
  | .element .. :: _ | .aside .. :: _ | .text _ :: _ :: _ => inferInstanceAs (Decidable False)

mutual

/-- Whether a node is canonical. -/
def Node.decCanonical (keeping : Bool) : (n : Node) → Decidable (n.Canonical keeping)
  | .text content => inferInstanceAs (Decidable (content ≠ [] ∧ Stays keeping content))
  | .aside kind content =>
    inferInstanceAs (Decidable (kind.Canonical content ∧ Stays keeping content))
  | .element _ name attributes children =>
    have := decCanonicalAll (keeping || keepsBlanks name) children
    inferInstanceAs (Decidable (TagName name ∧ attributes.Canonical name ∧
      (isVoid name = true → children = []) ∧ (isRawText name = true → RawContent children) ∧
      Node.CanonicalAll (keeping || keepsBlanks name) children))

/-- Whether nodes are canonical. -/
def Node.decCanonicalAll (keeping : Bool) : (ns : List Node) → Decidable (CanonicalAll keeping ns)
  | [] => inferInstanceAs (Decidable True)
  | n :: ns =>
    have := decCanonical keeping n
    have := decCanonicalAll keeping ns
    inferInstanceAs (Decidable (n.Canonical keeping ∧
      (startsWithText [n] && startsWithText ns) = false ∧ CanonicalAll keeping ns))

end

instance (keeping : Bool) (ns : List Node) : Decidable (Node.CanonicalAll keeping ns) :=
  Node.decCanonicalAll keeping ns

/-! ## Events that nodes are written as -/

mutual

/-- The events that a node is written as. -/
def Node.events : Node → List Event
  | .text content => [.text content]
  | .aside kind content => [.aside kind content]
  | .element _ name attributes children =>
    let written := sortedByName (writtenAttributes name attributes)
    if isVoid name && children.isEmpty then [.startTag name written true]
    else .startTag name written false :: (Node.eventsAll children ++ [.endTag name])

/-- The events that nodes are written as, one after the other. -/
def Node.eventsAll : List Node → List Event
  | [] => []
  | n :: ns => Node.events n ++ Node.eventsAll ns

end

/-- Whether nothing in a text begins markup. -/
def MarkFree (t : Text) : Prop := ∀ c ∈ t, Event.isMark c = false

/-- Whether a text is read as events, whatever text without marks stands before it. -/
def Reads (s : Text) (es : List Event) : Prop :=
  ∀ t : Text, MarkFree t → ∀ b : Nesting,
    (readFrom false (t ++ s)).foldl Nesting.step b = (Event.text t :: es).foldl Nesting.step b

/-! ## Reading one piece -/

section Piece

variable {t u rest : Text} {events : List Event}

theorem MarkFree.not_isMark (ht : MarkFree t) : ∀ c ∈ t, (!Event.isMark c) = true := by
  intro c hc
  rw [ht c hc]
  rfl

theorem MarkFree.span (ht : MarkFree t) {c : Char} (hc : Event.isMark c = true) :
    (t ++ c :: u).takeWhile (!Event.isMark ·) = t ∧
      (t ++ c :: u).dropWhile (!Event.isMark ·) = c :: u := by
  rw [List.takeWhile_append_of_pos ht.not_isMark, List.dropWhile_append_of_pos ht.not_isMark,
    List.takeWhile_cons_of_neg (by simp [hc]), List.dropWhile_cons_of_neg (by simp [hc]),
    List.append_nil]
  exact ⟨rfl, rfl⟩

theorem length_lt_append (h : rest.length ≤ u.length) (t : Text) (c : Char) :
    rest.length < (t ++ c :: u).length := by
  simp only [List.length_append, List.length_cons]
  omega

theorem readFrom_tag (ht : MarkFree t) (h : readTag ('<' :: u) = .events events rest)
    (hlength : rest.length ≤ u.length) :
    readFrom false (t ++ '<' :: u) = ofText t ++ (events ++ readFrom false rest) := by
  have hspan := ht.span (u := u) (by decide : Event.isMark '<' = true)
  rw [readFrom]
  simp only [hspan, h, dif_pos (length_lt_append hlength t '<')]

theorem readFrom_reference (ht : MarkFree t)
    (h : readReference false ('&' :: u) = .events events rest) (hlength : rest.length ≤ u.length) :
    readFrom false (t ++ '&' :: u) = ofText t ++ (events ++ readFrom false rest) := by
  have hspan := ht.span (u := u) (by decide : Event.isMark '&' = true)
  rw [readFrom]
  simp only [hspan, h, List.cons.injEq, Char.reduceEq, false_and, imp_false, not_false_eq_true,
    implies_true, dif_pos (length_lt_append hlength t '&')]

theorem readFrom_raw {tag : Event} {name content behind : Text} (ht : MarkFree t)
    (h : readTag ('<' :: u) = .raw tag name behind)
    (hcut : cutWhere? (afterEndTag? name) behind = some (content, rest))
    (hlength : rest.length ≤ u.length) :
    readFrom false (t ++ '<' :: u)
      = ofText t ++ (tag :: (ofText content ++ .endTag name :: readFrom false rest)) := by
  have hspan := ht.span (u := u) (by decide : Event.isMark '<' = true)
  rw [readFrom]
  simp only [hspan, h, hcut, dif_pos (length_lt_append hlength t '<')]

end Piece

/-! ## Reading in sequence -/

namespace Reads

variable {s u rest : Text} {es : List Event}

theorem foldl_ofText (t : Text) (b : Nesting) :
    (ofText t).foldl Nesting.step b = b.step (.text t) := by
  unfold ofText
  split
  case isTrue h => simp [h, Nesting.step]
  case isFalse => rfl

theorem foldl_readFrom (h : Reads s es) (b : Nesting) :
    (readFrom false s).foldl Nesting.step b = es.foldl Nesting.step b := by
  have hs := h [] (fun _ hc => absurd hc List.not_mem_nil) b
  rwa [List.nil_append, List.foldl_cons, Nesting.step, List.append_nil] at hs

theorem nil : Reads [] [] := by
  intro t ht b
  have htake : t.takeWhile (!Event.isMark ·) = t := List.takeWhile_eq_self_iff.mpr ht.not_isMark
  have hdrop : t.dropWhile (!Event.isMark ·) = [] := List.dropWhile_eq_nil_iff.mpr ht.not_isMark
  rw [List.append_nil, readFrom]
  simp only [htake, hdrop, List.append_nil]
  exact foldl_ofText t b

theorem tag (h : Reads rest es) {e : Event} (hpiece : readTag ('<' :: u) = .events [e] rest)
    (hlength : rest.length ≤ u.length) : Reads ('<' :: u) (e :: es) := by
  intro t ht b
  rw [readFrom_tag ht hpiece hlength, List.foldl_append, foldl_ofText, List.foldl_append,
    h.foldl_readFrom]
  rfl

theorem raw {tag : Event} {name content behind : Text} (h : Reads rest es)
    (hpiece : readTag ('<' :: u) = .raw tag name behind)
    (hcut : cutWhere? (afterEndTag? name) behind = some (content, rest))
    (hlength : rest.length ≤ u.length) :
    Reads ('<' :: u) (tag :: (ofText content ++ .endTag name :: es)) := by
  intro t ht b
  rw [readFrom_raw ht hpiece hcut hlength, List.foldl_append, foldl_ofText]
  simp only [List.foldl_cons, List.foldl_append, h.foldl_readFrom]

/-- Text is read in pieces, which come to one text in the end. -/
theorem text (h : Reads s es) (content : Text) :
    Reads (escaped content ++ s) (.text content :: es) := by
  induction content with
  | nil =>
    intro t ht b
    rw [escaped, List.flatMap_nil, List.nil_append, h t ht b]
    simp [Nesting.step]
  | cons c content ih =>
    intro t ht b
    rw [escaped, List.flatMap_cons, ← escaped, List.append_assoc]
    rcases escapedChar_cases c with ⟨hc, hmark⟩ | ⟨name, hname, hc⟩
    · have htc : MarkFree (t ++ [c]) := by
        intro d hd
        rcases List.mem_append.mp hd with hd | hd
        · exact ht d hd
        · rwa [List.mem_singleton.mp hd]
      rw [hc, ← List.append_assoc, ih (t ++ [c]) htc b]
      simp [Nesting.step]
    · have hpiece : readReference false ('&' :: (name ++ ';' :: (escaped content ++ s)))
          = .events [.text [c]] (escaped content ++ s) := readReference_name hname _
      rw [hc, List.cons_append, List.append_assoc, List.singleton_append,
        readFrom_reference ht hpiece (by simp; omega), List.foldl_append, foldl_ofText,
        List.foldl_append, ih.foldl_readFrom]
      simp [Nesting.step]

theorem startTag (h : Reads rest es) {name : Text} (hname : TagName name)
    {written : List (Text × Text)} (hwritten : ∀ e ∈ written, AttributeName e.1) (closed : Bool)
    (hraw : (!closed && isRawText name) = false) :
    Reads ('<' :: (name ++ (written.flatMap attributeText ++ (tagEnd closed ++ rest))))
      (.startTag name written closed :: es) := by
  refine h.tag ?_ (by simp; omega)
  rw [readTag_startTag hname hwritten, hraw]
  rfl

theorem endTag (h : Reads rest es) {name : Text} (hname : TagName name) :
    Reads ('<' :: '/' :: (name ++ '>' :: rest)) (.endTag name :: es) :=
  h.tag (readTag_endTag hname rest) (by simp; omega)

end Reads

/-! ## Reading nodes -/

/-- An aside ends where it is meant to, whatever is written behind it. -/
theorem Reads.aside {rest : Text} {es : List Event} (h : Reads rest es) {kind : Aside}
    {content : Text} (hkind : kind.Canonical content) :
    Reads (kind.marks.1 ++ content ++ kind.marks.2 ++ rest) (.aside kind content :: es) := by
  rw [List.append_assoc, List.append_assoc]
  cases kind with
  | comment =>
    have hmarks : Aside.comment.marks = (['<', '!', '-', '-'], ['-', '-', '>']) := by decide
    rw [hmarks]
    exact h.tag (readTag_comment hkind rest) (by simp; omega)
  | instruction =>
    have hmarks : Aside.instruction.marks = (['<', '?'], ['>']) := by decide
    rw [hmarks]
    exact h.tag (readTag_instruction hkind rest) (by simp; omega)
  | documentType | declaration | characterData => exact absurd hkind (by simp [Aside.Canonical])

/-- An element with raw text is read with this text as it is. -/
theorem Reads.rawElement {rest : Text} {es : List Event} (h : Reads rest es) {name : Text}
    (hname : TagName name) {written : List (Text × Text)}
    (hwritten : ∀ e ∈ written, AttributeName e.1) (hraw : isRawText name = true)
    {children : List Node} (hchildren : RawContent children)
    {keeping : Bool} (hcanonical : Node.CanonicalAll keeping children) :
    Reads ('<' :: (name ++ (written.flatMap attributeText ++ '>' ::
        (Node.renderAll true children ++ '<' :: '/' :: (name ++ '>' :: rest)))))
      (.startTag name written false :: (Node.eventsAll children ++ .endTag name :: es)) := by
  obtain ⟨content, hcontent, hrender, hevents⟩ : ∃ content, ¬ ['<', '/'] <:+: content ∧
      Node.renderAll true children = content ∧ Node.eventsAll children = ofText content := by
    match children with
    | [] => exact ⟨[], by simp, rfl, rfl⟩
    | [.text content] =>
      simp only [Node.CanonicalAll, Node.Canonical] at hcanonical
      exact ⟨content, hchildren, by simp [Node.renderAll, Node.render],
        by simp [Node.eventsAll, Node.events, ofText, hcanonical.1.1]⟩
    | .element .. :: _ | .aside .. :: _ | .text _ :: _ :: _ =>
      exact absurd hchildren (by simp [RawContent])
  have hpiece := readTag_startTag hname hwritten false
    (content ++ '<' :: '/' :: (name ++ '>' :: rest))
  rw [hraw] at hpiece
  rw [hrender, hevents]
  exact h.raw hpiece (cutWhere?_endTag hname hcontent rest) (by simp; omega)

theorem Attributes.Canonical.mem_written {element : Text} {a : Attributes} (h : a.Canonical element)
    {e : Text × Text} (he : e ∈ sortedByName (writtenAttributes element a)) : e ∈ a.entries := by
  rw [h.written] at he
  exact (perm_sortedByName a.entries).mem_iff.mp he

mutual

/-- A canonical node is read as the events that it is written as. -/
theorem Node.reads {keeping : Bool} {rest : Text} {es : List Event} : (n : Node) →
    n.Canonical keeping → Reads rest es → Reads (n.render false ++ rest) (n.events ++ es)
  | .text content, _, hrest => by
    simp only [render, events]
    exact hrest.text content
  | .aside kind content, h, hrest => by
    simp only [Canonical] at h
    simp only [render, events]
    exact hrest.aside h.1
  | .element id name attributes children, h, hrest => by
    simp only [Canonical] at h
    obtain ⟨hname, hattributes, hvoid, hraw, hchildren⟩ := h
    have hwritten : ∀ e ∈ sortedByName (writtenAttributes name attributes), AttributeName e.1 :=
      fun e he => hattributes.names e (hattributes.mem_written he)
    simp only [render, events]
    by_cases hempty : (isVoid name && children.isEmpty) = true
    · rw [if_pos hempty, if_pos hempty]
      simpa [attributesText, tagEnd] using hrest.startTag hname hwritten true rfl
    · rw [if_neg hempty, if_neg hempty]
      by_cases hrawName : isRawText name = true
      · have hread := hrest.rawElement hname hwritten hrawName (hraw hrawName) hchildren
        simpa [attributesText, hrawName] using hread
      · have hread := (readsAll children hchildren (hrest.endTag hname)).startTag hname hwritten
          false (by simpa using hrawName)
        simpa [attributesText, tagEnd, hrawName] using hread

theorem Node.readsAll {keeping : Bool} {rest : Text} {es : List Event} : (ns : List Node) →
    CanonicalAll keeping ns → Reads rest es → Reads (renderAll false ns ++ rest) (eventsAll ns ++ es)
  | [], _, hrest => by
    simpa only [renderAll, eventsAll, List.nil_append] using hrest
  | n :: ns, h, hrest => by
    simp only [CanonicalAll] at h
    simp only [renderAll, eventsAll, List.append_assoc]
    exact reads n h.1 (readsAll ns h.2.2 hrest)

end

end GeneratedContent.Html
