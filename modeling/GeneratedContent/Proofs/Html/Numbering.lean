import GeneratedContent.Proofs.Html.Elements

/-!
# Numbers of a page that is read

Elements are numbered as their start tags are read. What has been read of a page so far has numbers
of its own, wherever it is kept, and a number is given once. So the page that comes out is well
numbered (`Page.wellNumbered_read`).
-/

namespace GeneratedContent.Html

theorem Node.perm_ids_reverse (ns : List Node) : (ids ns.reverse).Perm (ids ns) := by
  induction ns with
  | nil => exact List.Perm.refl _
  | cons n ns ih =>
    rw [List.reverse_cons, ids_append, ids_cons n ns]
    exact (ih.append_right _).trans List.perm_append_comm

namespace Nesting

/-- The numbers of all elements read so far. -/
def ids (b : Nesting) : List Nat :=
  b.opened.flatMap (fun e => e.id :: Node.ids e.children) ++ Node.ids b.top

/-- Whether the elements read so far have numbers of their own, and the next number is free. -/
structure WellNumbered (b : Nesting) : Prop where
  /-- No two elements have the same number. -/
  nodup : b.ids.Nodup
  /-- The number zero is left for the page. -/
  pos : ∀ i ∈ b.ids, 0 < i
  /-- The numbers from the next one on are free. -/
  lt : ∀ i ∈ b.ids, i < b.nextId
  /-- The next number is no exception. -/
  next : 0 < b.nextId

theorem WellNumbered.of_perm {b c : Nesting} (hb : b.WellNumbered) (h : c.ids.Perm b.ids)
    (hn : c.nextId = b.nextId) : c.WellNumbered where
  nodup := h.nodup_iff.2 hb.nodup
  pos := fun i hi => hb.pos i (h.mem_iff.1 hi)
  lt := fun i hi => hn ▸ hb.lt i (h.mem_iff.1 hi)
  next := hn ▸ hb.next

theorem ids_add (b : Nesting) (n : Node) : (b.add n).ids.Perm (Node.ids [n] ++ b.ids) := by
  unfold add
  split
  · rename_i h
    simp only [ids, h, List.flatMap_nil, List.nil_append]
    rw [Node.ids_cons]
  · rename_i e es h
    simp only [ids, h, List.flatMap_cons, List.cons_append]
    rw [Node.ids_cons]
    simp only [List.append_assoc]
    exact List.perm_middle.symm

@[simp] theorem nextId_add (b : Nesting) (n : Node) : (b.add n).nextId = b.nextId := by
  unfold add
  split <;> rfl

theorem ids_leave (count : Nat) (b : Nesting) : (leave count b).ids.Perm b.ids := by
  induction count generalizing b with
  | zero => exact List.Perm.refl _
  | succ count ih =>
    unfold leave
    split
    · exact List.Perm.refl _
    · rename_i e es h
      have hnode : (Node.ids [e.node]).Perm (e.id :: Node.ids e.children) := by
        simp only [OpenElement.node, Node.ids_element, Node.ids_nil, List.append_nil]
        exact (Node.perm_ids_reverse e.children).cons _
      have hadd := ids_add { b with opened := es } e.node
      refine (ih _).trans (hadd.trans ?_)
      simp only [ids, h, List.flatMap_cons, List.append_assoc]
      exact hnode.append_right _

@[simp] theorem nextId_leave (count : Nat) (b : Nesting) : (leave count b).nextId = b.nextId := by
  induction count generalizing b with
  | zero => rfl
  | succ count ih =>
    unfold leave
    split
    · rfl
    · rw [ih, nextId_add]

theorem WellNumbered.leave {b : Nesting} (hb : b.WellNumbered) (count : Nat) :
    (leave count b).WellNumbered :=
  hb.of_perm (ids_leave count b) (nextId_leave count b)

/-- A node without elements takes no number. -/
theorem WellNumbered.add {b : Nesting} (hb : b.WellNumbered) {n : Node} (hn : Node.ids [n] = []) :
    (b.add n).WellNumbered := by
  refine hb.of_perm ?_ (nextId_add b n)
  have h := ids_add b n
  rwa [hn, List.nil_append] at h

theorem WellNumbered.endRun {b : Nesting} (hb : b.WellNumbered) : b.endRun.WellNumbered := by
  unfold Nesting.endRun
  split
  · exact hb
  · have hcleared : { b with run := [] }.WellNumbered := hb.of_perm (List.Perm.refl _) rfl
    exact hcleared.add (Node.ids_text _ _)

/-- An element that is opened takes the next number. -/
theorem WellNumbered.enter {b : Nesting} (hb : b.WellNumbered) (name : Text)
    (attributes : List (Text × Text)) : (b.enter name attributes).WellNumbered := by
  have hids : (b.enter name attributes).ids = b.nextId :: b.ids := rfl
  constructor
  · rw [hids, List.nodup_cons]
    refine ⟨?_, hb.nodup⟩
    intro h
    exact Nat.lt_irrefl _ (hb.lt _ h)
  · intro i hi
    rw [hids, List.mem_cons] at hi
    rcases hi with rfl | hi
    · exact hb.next
    · exact hb.pos i hi
  · intro i hi
    show i < b.nextId + 1
    rw [hids, List.mem_cons] at hi
    rcases hi with rfl | hi
    · exact Nat.lt_succ_self _
    · exact Nat.lt_succ_of_lt (hb.lt i hi)
  · exact Nat.succ_pos _

/-- Taking in an event keeps what has been read well numbered. -/
theorem WellNumbered.step {b : Nesting} (hb : b.WellNumbered) (e : Event) :
    (b.step e).WellNumbered := by
  cases e with
  | text content => exact hb.of_perm (List.Perm.refl _) rfl
  | surrogate number => exact hb.of_perm (List.Perm.refl _) rfl
  | aside kind content => exact hb.endRun.add (Node.ids_aside _ _ _)
  | rejected reason => exact hb
  | startTag name attributes closed =>
    have hentered := hb.endRun.enter name attributes
    simp only [Nesting.step]
    split
    · exact hentered.leave 1
    · split
      · exact (hentered.leave 1).of_perm (List.Perm.refl _) rfl
      · exact hentered
  | endTag name =>
    simp only [Nesting.step]
    split
    · exact hb.of_perm (List.Perm.refl _) rfl
    · split
      · exact hb.endRun.leave _
      · exact hb.endRun

theorem WellNumbered.run {b : Nesting} (hb : b.WellNumbered) (events : List Event) :
    (events.foldl Nesting.step b).WellNumbered := by
  induction events generalizing b with
  | nil => exact hb
  | cons e events ih => exact ih (hb.step e)

/-- When as many elements are closed as are open, none is open any more. -/
theorem opened_leave (b : Nesting) : (leave b.opened.length b).opened = [] := by
  generalize hn : b.opened.length = n
  induction n generalizing b with
  | zero => exact List.length_eq_zero_iff.1 hn
  | succ n ih =>
    unfold leave
    split
    · rename_i h
      exact h
    · rename_i e es h
      -- closing the innermost element opens no other
      apply ih
      rw [h, List.length_cons] at hn
      have hlength : ({ b with opened := es }.add e.node).opened.length = es.length := by
        unfold Nesting.add
        split
        · rfl
        · rename_i f fs hf
          rw [show es = f :: fs from hf]
          rfl
      omega

theorem WellNumbered.finish {b : Nesting} (hb : b.WellNumbered) : b.finish.WellNumbered := by
  -- after all open elements are closed, all that has been read stands at the top
  have hclosed := hb.endRun.leave b.endRun.opened.length
  have hopened := opened_leave b.endRun
  have hids : (Node.ids b.finish.nodes).Perm
      (Nesting.leave b.endRun.opened.length b.endRun).ids := by
    simp only [Nesting.ids, hopened, List.flatMap_nil, List.nil_append]
    exact Node.perm_ids_reverse _
  have hnext : b.finish.nextId = (Nesting.leave b.endRun.opened.length b.endRun).nextId := by
    simp only [Nesting.finish, nextId_leave]
  constructor
  · exact hids.nodup_iff.2 hclosed.nodup
  · intro i hi
    exact hclosed.pos i (hids.mem_iff.1 hi)
  · intro i hi
    rw [hnext]
    exact hclosed.lt i (hids.mem_iff.1 hi)
  · rw [hnext]
    exact hclosed.next

end Nesting

/-- The page that a text describes is well numbered. -/
theorem Page.wellNumbered_read (source : Text) : (Page.read source).WellNumbered := by
  have hstart : Nesting.WellNumbered {} := by
    constructor
    · exact List.nodup_nil
    · intro i hi
      exact absurd hi List.not_mem_nil
    · intro i hi
      exact absurd hi List.not_mem_nil
    · exact Nat.one_pos
  exact (hstart.run (Event.read source)).finish

end GeneratedContent.Html
