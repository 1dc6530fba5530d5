import GeneratedContent.Proofs.Counter.Run
import Mathlib.Data.List.Induction
import Mathlib.Order.Bounds.Basic

/-!
# How far a run goes back

The value of an element is the length of the longest block of elements of its own parent that ends with
it (`values_longest`). A count carries this along: counting one more element of the parent makes the block
longer by one, and an element of another parent begins a block.
-/

namespace GeneratedContent.Counter

variable {κ : Type} [DecidableEq κ]

/-! ## Blocks at the end -/

/-- The lengths of the blocks of one parent that elements end with. -/
def endBlocks (parent : Option κ) (parents : List (Option κ)) : Set Nat :=
  {n | List.replicate n parent <:+ parents}

omit [DecidableEq κ] in
/-- One more element of the parent makes the longest block longer by one. -/
theorem isGreatest_endBlocks_concat {parent : Option κ} {parents : List (Option κ)} {n : Nat}
    (h : IsGreatest (endBlocks parent parents) n) :
    IsGreatest (endBlocks parent (parents ++ [parent])) (n + 1) := by
  have hconcat : ∀ m,
      m + 1 ∈ endBlocks parent (parents ++ [parent]) ↔ m ∈ endBlocks parent parents := by
    intro m
    change List.replicate (m + 1) parent <:+ parents ++ [parent] ↔ List.replicate m parent <:+ parents
    rw [List.replicate_succ', List.suffix_append_self_iff]
  refine ⟨(hconcat n).2 h.1, ?_⟩
  rintro (_ | m) hm
  · exact Nat.zero_le _
  · exact Nat.succ_le_succ (h.2 ((hconcat m).1 hm))

omit [DecidableEq κ] in
/-- Behind an element of another parent there is only the empty block. -/
theorem isGreatest_endBlocks_zero {parent : Option κ} {parents : List (Option κ)}
    (h : parents.getLast? ≠ some parent) : IsGreatest (endBlocks parent parents) 0 := by
  refine ⟨List.nil_suffix, ?_⟩
  rintro (_ | m) hm
  · exact Nat.le_refl 0
  · obtain ⟨front, hfront⟩ := hm
    rw [List.replicate_succ', ← List.append_assoc] at hfront
    exact absurd (hfront ▸ List.getLast?_concat) h

/-! ## One more element -/

/-- Whether a value is the one that the last of some elements has: one if it has no parent, and else the
length of the longest block of its parent at the end. -/
def IsValueOfLast (value : Nat) (parents : List (Option κ)) : Prop :=
  ∀ parent ∈ parents.getLast?,
    if parent = none then value = 1 else IsGreatest (endBlocks parent parents) value

/-- A state that is right for some elements is right when one more has been counted. -/
theorem isValueOfLast_advance {s : State κ} {parents : List (Option κ)}
    (hlast : s.lastParent = parents.getLast?.getD none) (hvalue : IsValueOfLast s.value parents)
    (parent : Option κ) : IsValueOfLast (s.advance parent).value (parents ++ [parent]) := by
  intro last hmem
  obtain rfl : parent = last := by simpa using hmem
  cases parent with
  | none => rw [if_pos rfl, State.advance_restart fun hne => absurd rfl hne]
  | some key =>
    rw [if_neg (Option.some_ne_none key)]
    by_cases hsame : parents.getLast? = some (some key)
    · have hblock := hvalue _ hsame
      rw [if_neg (Option.some_ne_none key)] at hblock
      rw [hsame, Option.getD_some] at hlast
      rw [State.advance_same hlast]
      exact isGreatest_endBlocks_concat hblock
    · have hne : some key ≠ s.lastParent := by
        intro h
        rw [hlast, eq_comm, Option.getD_eq_iff] at h
        rcases h with hkey | ⟨-, hnone⟩
        · exact hsame hkey
        · exact Option.some_ne_none key hnone.symm
      rw [State.advance_restart fun _ => hne]
      exact isGreatest_endBlocks_concat (isGreatest_endBlocks_zero hsame)

/-! ## All elements -/

theorem isValueOfLast_foldl (parents : List (Option κ)) :
    IsValueOfLast (parents.foldl State.advance {}).value parents := by
  induction parents using List.reverseRecOn with
  | nil => exact fun _ h => absurd h (by simp)
  | append_singleton parents parent ih =>
    rw [List.foldl_append, List.foldl_cons, List.foldl_nil]
    exact isValueOfLast_advance (lastParent_foldl {} parents) ih parent

/-- The states of a count are the ones that it passes through, but for the one it begins in. -/
theorem statesFrom_eq_scanl (s : State κ) (parents : List (Option κ)) :
    statesFrom s parents = (parents.scanl State.advance s).tail := by
  induction parents generalizing s with
  | nil => rfl
  | cons parent parents ih =>
    rw [statesFrom, ih, List.scanl_cons, List.tail_cons]
    cases parents <;> simp

/-- The value of an element is the one of the state after it. -/
theorem getElem?_values {parents : List (Option κ)} {i : Nat} (hi : i < parents.length) :
    (values parents)[i]? = some ((parents.take (i + 1)).foldl State.advance {}).value := by
  rw [values, states, statesFrom_eq_scanl, List.getElem?_map, List.getElem?_tail, List.getElem?_scanl,
    if_pos (Nat.succ_le_of_lt hi), Option.map_some]

/-- Every element has a value: one if it has no parent, and else the length of the longest block of
elements of its parent that ends with it. Counting on from the state that some elements lead to gives the
values of the others, and as if nothing came before them unless they begin with an element of the parent
that was the last one. -/
theorem values_longest (parents : List (Option κ)) :
    (values parents).length = parents.length ∧
      (∀ i parent, parents[i]? = some parent → ∃ value, (values parents)[i]? = some value ∧
        if parent = none then value = 1
        else IsGreatest (endBlocks parent (parents.take (i + 1))) value) ∧
      ∀ xs ys, parents = xs ++ ys →
        values parents =
          values xs ++ ((ys.scanl State.advance (xs.foldl State.advance {})).tail).map State.value ∧
        ((∀ parent ∈ ys.head?, parent = none ∨ some parent ≠ xs.getLast?) →
          values parents = values xs ++ values ys) := by
  refine ⟨length_values parents, fun i parent hparent => ?_, ?_⟩
  · obtain ⟨hi, hget⟩ := List.getElem?_eq_some_iff.1 hparent
    refine ⟨_, getElem?_values hi, isValueOfLast_foldl (parents.take (i + 1)) parent ?_⟩
    rw [List.take_add_one, hparent, Option.toList_some, List.getLast?_concat]
    rfl
  · rintro xs ys rfl
    constructor
    · rw [values, states, statesFrom_append, List.map_append, statesFrom_eq_scanl _ ys]
      rfl
    · intro hrestart
      apply values_append
      intro parent hparent hne
      exact (hrestart parent hparent).resolve_left hne

example : values [none, none, some 'p', some 'p', some 'q', some 'p'] = [1, 1, 1, 2, 1, 1] := by decide

end GeneratedContent.Counter
