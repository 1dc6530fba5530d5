import GeneratedContent.Proofs.Html.Canonical
import GeneratedContent.Proofs.Html.Recast

/-!
# Pages that are read as they are written

The events of canonical nodes nest to these nodes again, up to the numbers of elements and the order
of attributes. So reading undoes writing (`shape_read_renderAll`), and a page of canonical nodes is
written again as it stands (`render_read_renderAll`).
-/

namespace GeneratedContent.Html

open Event

namespace Nesting

variable {b : Nesting}

/-! ## Adding nodes -/

theorem foldl_add_opened {e : OpenElement} {es : List OpenElement} (h : b.opened = e :: es)
    (ns : List Node) : ns.foldl add b =
      { b with opened := { e with children := ns.reverse ++ e.children } :: es } := by
  induction ns generalizing b e with
  | nil => cases b; cases h; rfl
  | cons n ns ih =>
    have hadd : b.add n = { b with opened := { e with children := n :: e.children } :: es } := by
      rw [add, h]
    rw [List.foldl_cons, hadd, ih rfl, List.reverse_cons, List.append_assoc, List.singleton_append]

theorem foldl_add_top (h : b.opened = []) (ns : List Node) :
    ns.foldl add b = { b with top := ns.reverse ++ b.top } := by
  induction ns generalizing b with
  | nil => rfl
  | cons n ns ih =>
    have hadd : b.add n = { b with top := n :: b.top } := by rw [add, h]
    rw [List.foldl_cons, hadd, @ih { b with top := n :: b.top } h, List.reverse_cons,
      List.append_assoc, List.singleton_append]

theorem endRun_of_run (h : b.run = []) : b.endRun = b := by rw [endRun, if_pos h]

theorem foldl_add_numbered (k : Nat) (b : Nesting) (ns : List Node) :
    ns.foldl add { b with nextId := k } = { ns.foldl add b with nextId := k } := by
  induction ns generalizing b with
  | nil => rfl
  | cons n ns ih =>
    have hadd : add { b with nextId := k } n = { b.add n with nextId := k } := by
      simp only [add]
      split <;> rfl
    rw [List.foldl_cons, List.foldl_cons, hadd, ih]

/-! ## Text that is pending -/

/-- Whether an open element keeps its blanks. -/
def keeping (b : Nesting) : Bool := b.opened.any (keepsBlanks ·.name)

theorem keeping_add (b : Nesting) (n : Node) : (b.add n).keeping = b.keeping := by
  unfold keeping add
  cases b.opened <;> rfl

theorem voids_add (b : Nesting) (n : Node) : (b.add n).voids = b.voids := by
  unfold add
  split <;> rfl

theorem run_add (b : Nesting) (n : Node) : (b.add n).run = b.run := by
  unfold add
  split <;> rfl

theorem run_endRun (b : Nesting) : b.endRun.run = [] := by
  unfold endRun
  split
  case isTrue h => exact h
  case isFalse => rw [run_add]

theorem voids_endRun (b : Nesting) : b.endRun.voids = b.voids := by
  unfold endRun
  split
  · rfl
  · rw [voids_add]

theorem keeping_endRun (b : Nesting) : b.endRun.keeping = b.keeping := by
  unfold endRun
  split
  · rfl
  · rw [keeping_add]
    rfl

theorem endRun_endRun (b : Nesting) : b.endRun.endRun = b.endRun := endRun_of_run b.run_endRun

theorem kept_endRun (b : Nesting) (s : Text) : b.endRun.kept s = b.kept s := by
  have h := b.keeping_endRun
  unfold keeping at h
  rw [kept, h, kept]

/-- Whether what has been read ends between two nodes: no text is pending, and no end tag of a void
element is passed over. -/
structure Between (blanks : Bool) (b : Nesting) : Prop where
  /-- No text is pending. -/
  run : b.run = []
  /-- Every end tag counts. -/
  voids : b.voids = []
  /-- The open elements keep their blanks or not. -/
  keeping : b.keeping = blanks

namespace Between

variable {blanks : Bool} (h : b.Between blanks)

include h

theorem add (n : Node) : (b.add n).Between blanks :=
  ⟨(run_add b n).trans h.run, (voids_add b n).trans h.voids, (keeping_add b n).trans h.keeping⟩

theorem numbered (k : Nat) : ({ b with nextId := k } : Nesting).Between blanks :=
  ⟨h.run, h.voids, h.keeping⟩

theorem enter (name : Text) (attributes : List (Text × Text)) :
    (b.enter name attributes).Between (blanks || keepsBlanks name) := by
  refine ⟨h.run, h.voids, ?_⟩
  rw [← h.keeping]
  exact Bool.or_comm _ _

theorem kept_eq {s : Text} (hs : Stays blanks s) : b.kept s = s := by
  unfold kept
  split
  case isTrue hspace =>
    rw [Bool.and_eq_true, Bool.not_eq_true'] at hspace
    rcases hs hspace.1 with hblanks | rfl | rfl
    · rw [← h.keeping] at hblanks
      exact absurd hblanks (by simp [Nesting.keeping, hspace.2])
    · rfl
    · rfl
  case isFalse => rfl

/-- Text that stays is added as a node when it ends. -/
theorem endRun_text {content : Text} (hne : content ≠ []) (hcontent : Stays blanks content) :
    (b.step (.text content)).endRun = b.add (.text content) := by
  have hpending : b.step (.text content) = { b with run := content } := by
    rw [step, h.run, List.nil_append]
  have hends : { b with run := ([] : Text) } = b := by rw [← h.run]
  have hkept : ({ b with run := content } : Nesting).kept content = content := h.kept_eq hcontent
  rw [hpending, endRun, if_neg hne, hkept, hends]

end Between

/-- A start tag or an aside ends the text before it. -/
theorem foldl_events_endRun {ns : List Node} (h : startsWithText ns = false) (b : Nesting) :
    ((Node.eventsAll ns).foldl step b.endRun).endRun
      = ((Node.eventsAll ns).foldl step b).endRun := by
  cases ns with
  | nil => simp only [Node.eventsAll, List.foldl_nil, endRun_endRun]
  | cons n ns =>
    cases n with
    | text content => exact absurd h (by simp [startsWithText])
    | aside kind content =>
      simp only [Node.eventsAll, Node.events, List.singleton_append, List.foldl_cons, step,
        endRun_endRun, kept_endRun]
    | element id name attributes children =>
      simp only [Node.eventsAll, Node.events]
      split <;> simp only [List.cons_append, List.foldl_cons, step, endRun_endRun]

/-! ## Nodes from their events -/

/-- The attributes of a start tag are those of the element that it was written for. -/
theorem tidied_attributesOf {element : Text} {a : Attributes} (h : a.Canonical element) :
    (attributesOf element (sortedByName (writtenAttributes element a))).tidied = a.tidied := by
  have hvalues : ∀ e ∈ sortedByName a.entries,
      (e.1, if isWordList element e.1 then Text.collapseBlanks e.2 else e.2) = e := by
    intro e he
    have hvalue := h.values e ((perm_sortedByName a.entries).mem_iff.mp he)
    split
    case isTrue hlist => rw [hvalue hlist]
    case isFalse => rfl
  have hentries : (attributesOf element (sortedByName (writtenAttributes element a))).entries
      = sortedByName a.entries := by
    rw [attributesOf, h.written, List.map_congr_left hvalues, List.map_id']
    exact OrderedMap.entries_ofList a.sorted.nodup
  exact (Attributes.tidied_of_perm h.lowered
    (hentries ▸ (perm_sortedByName a.entries).symm)).symm

end Nesting

open Nesting

theorem Node.shape_cons (n : Node) (ns : List Node) : shape (n :: ns) = shape [n] ++ shape ns := by
  simp only [shape, recastAll_cons, recastAll_nil, List.singleton_append]

theorem Node.shape_element {id id' : Nat} (name : Text) {a a' : Attributes} {ms ns : List Node}
    (ha : a.tidied = a'.tidied) (h : shape ms = shape ns) :
    shape [.element id name a ms] = shape [.element id' name a' ns] := by
  unfold shape at h ⊢
  simp only [recastAll_cons, recastAll_nil, recast_element, h]
  rw [show (Recasting.tidying fun _ => 0).attributes a = a'.tidied from ha]
  rfl

/-- An element is put where its start tag stands, with what stands between its tags. -/
theorem Nesting.Between.step_endTag {b c : Nesting} {blanks : Bool} (hb : b.Between blanks)
    {name : Text} {written : List (Text × Text)} {ns : List Node} {k : Nat}
    (hc : c.endRun = { ns.foldl Nesting.add (b.enter name written) with nextId := k }) :
    c.step (.endTag name) =
      { b.add (.element b.nextId name (attributesOf name written) ns) with nextId := k } := by
  rw [foldl_add_opened (b := b.enter name written) rfl ns] at hc
  have hcvoids : c.voids = [] := by
    rw [← voids_endRun, hc]
    exact hb.voids
  simp only [step, hcvoids, hc, Nesting.enter]
  rw [if_neg (by simp), List.findIdx?_cons]
  simp only [decide_true, if_true, leave, OpenElement.node, List.append_nil,
    List.reverse_reverse, Nesting.add]
  split <;> rfl

mutual

/-- The events of a canonical node, if it is no text, add this node. -/
theorem Node.nest {blanks : Bool} : (n : Node) → n.Canonical blanks → startsWithText [n] = false →
    (b : Nesting) → b.Between blanks →
    ∃ n' k, shape [n'] = shape [n] ∧ n.events.foldl step b = { b.add n' with nextId := k }
  | .text _, _, htext, _, _ => absurd htext (by simp [startsWithText])
  | .aside kind content, h, _, b, hb => by
    simp only [Canonical] at h
    refine ⟨.aside kind content, b.nextId, rfl, ?_⟩
    simp only [events, List.foldl_cons, List.foldl_nil, step, endRun_of_run hb.run, hb.kept_eq h.2]
    unfold add
    split <;> rfl
  | .element id name attributes children, h, _, b, hb => by
    simp only [Canonical] at h
    obtain ⟨-, hattributes, hvoid, -, hchildren⟩ := h
    have htidied := tidied_attributesOf hattributes
    simp only [events]
    generalize sortedByName (writtenAttributes name attributes) = written at htidied ⊢
    by_cases hempty : (isVoid name && children.isEmpty) = true
    · rw [if_pos hempty]
      obtain rfl : children = [] := by simp_all
      refine ⟨.element b.nextId name (attributesOf name written) [], b.nextId + 1,
        shape_element name htidied rfl, ?_⟩
      simp only [List.foldl_cons, List.foldl_nil, step, endRun_of_run hb.run, enter, leave, add,
        OpenElement.node, List.reverse_nil, if_true]
      split <;> rfl
    · rw [if_neg hempty]
      have hnotVoid : isVoid name = false := by
        by_contra hname
        rw [Bool.not_eq_false] at hname
        exact hempty (by rw [hname, hvoid hname]; rfl)
      obtain ⟨ns, k, hshape, hns⟩ := nestAll children hchildren (b.enter name written)
        (hb.enter name written)
      refine ⟨.element b.nextId name (attributesOf name written) ns, k,
        shape_element name htidied hshape, ?_⟩
      have hstart : b.step (.startTag name written false) = b.enter name written := by
        simp only [step, endRun_of_run hb.run, hnotVoid]
        rfl
      rw [List.foldl_cons, hstart, List.foldl_append]
      exact hb.step_endTag hns

theorem Node.nestAll {blanks : Bool} : (ns : List Node) → CanonicalAll blanks ns →
    (b : Nesting) → b.Between blanks →
    ∃ ns' k, shape ns' = shape ns ∧
      ((eventsAll ns).foldl step b).endRun = { ns'.foldl add b with nextId := k }
  | [], _, b, hb => ⟨[], b.nextId, rfl, by
      simp only [eventsAll, List.foldl_nil]
      exact endRun_of_run hb.run⟩
  | n :: ns, h, b, hb => by
    simp only [CanonicalAll] at h
    obtain ⟨hn, hnext, hns⟩ := h
    simp only [eventsAll, List.foldl_append]
    cases htext : startsWithText [n] with
    | true =>
      -- the text is pending until the next event, which is no text
      obtain ⟨content, rfl⟩ : ∃ content, n = .text content := by
        cases n <;> simp_all [startsWithText]
      rw [htext, Bool.true_and] at hnext
      simp only [Canonical] at hn
      obtain ⟨ns', k, hshape, hns'⟩ := nestAll ns hns (b.add (.text content)) (hb.add _)
      refine ⟨.text content :: ns', k, by rw [shape_cons, hshape, ← shape_cons], ?_⟩
      simp only [events, List.foldl_cons, List.foldl_nil]
      rw [← foldl_events_endRun hnext, hb.endRun_text hn.1 hn.2, hns']
    | false =>
      obtain ⟨n', k, hshape, hn'⟩ := nest n hn htext b hb
      obtain ⟨ns', k', hshapes, hns'⟩ := nestAll ns hns { b.add n' with nextId := k }
        ((hb.add n').numbered k)
      refine ⟨n' :: ns', k', by rw [shape_cons, hshape, hshapes, ← shape_cons], ?_⟩
      rw [hn', hns', List.foldl_cons, foldl_add_numbered]

end

/-! ## Reading what is written -/

/-- Reading undoes writing, up to the numbers of elements and the order of attributes. -/
theorem Page.shape_read_renderAll {ns : List Node} (h : Node.CanonicalAll false ns) :
    Node.shape (Page.read (Node.renderAll false ns)).nodes = Node.shape ns := by
  obtain ⟨ns', k, hshape, hns'⟩ := Node.nestAll ns h {} ⟨rfl, rfl, rfl⟩
  have hread := (Node.readsAll ns h Reads.nil).foldl_readFrom {}
  rw [List.append_nil, List.append_nil] at hread
  have hnodes : (Page.read (Node.renderAll false ns)).nodes = ns' := by
    rw [Page.read, Page.ofEvents, Event.read, hread, Nesting.finish, hns', foldl_add_top rfl]
    simp [leave]
  rw [hnodes, hshape]

/-- A page of canonical nodes is written again as it stands. -/
theorem Page.render_read_renderAll {ns : List Node} (h : Node.CanonicalAll false ns) :
    (Page.read (Node.renderAll false ns)).render = Node.renderAll false ns := by
  have hshape := Page.shape_read_renderAll h
  unfold Node.shape at hshape
  rw [Page.render, ← Node.renderAll_tidy (fun _ => 0), hshape, Node.renderAll_tidy]

example : Node.CanonicalAll false (Page.read
    "<!--x--><p class=\"a b\">1 &lt; 2<br/></p>\n<script>if (a < b) c()</script>".toList).nodes := by
  decide +kernel

end GeneratedContent.Html
