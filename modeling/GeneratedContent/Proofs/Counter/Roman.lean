import GeneratedContent.Counter.Numeral
import Mathlib.Algebra.Ring.Int.Defs
import Mathlib.Tactic.Ring

/-!
# Roman numerals

A Roman numeral is read letter by letter: a letter in front of a greater one is taken away, and any other
one is added. Signs whose letters do not rise from one sign to the next can be read one after the other
(`romanValue_append`), so what is written with the signs of a scale, greatest first, is read as the number
that it was written for (`romanValue_roman`).
-/

namespace GeneratedContent.Counter

/-! ## Reading -/

/-- What a letter stands for by itself. -/
def letterValue (c : Char) : Nat := ((romanSigns.find? (·.2 = [c])).map Prod.fst).getD 0

/-- What the first letter of a numeral stands for. -/
def lead (s : Text) : Nat := (s.head?.map letterValue).getD 0

/-- What the last letter of a numeral stands for. -/
def trail (s : Text) : Nat := (s.getLast?.map letterValue).getD 0

/-- The number that a Roman numeral stands for. -/
def romanValue : Text → Int
  | [] => 0
  | c :: s => (if letterValue c < lead s then -letterValue c else letterValue c : Int) + romanValue s

theorem romanValue_cons (c : Char) (s : Text) :
    romanValue (c :: s) =
      (if letterValue c < lead s then -letterValue c else letterValue c : Int) + romanValue s := rfl

/-- A letter by itself is not taken away. -/
theorem romanValue_singleton (c : Char) : romanValue [c] = letterValue c := by
  simp [romanValue, lead]

theorem lead_append_le {s t : Text} {bound : Nat} (hs : lead s ≤ bound) (ht : lead t ≤ bound) :
    lead (s ++ t) ≤ bound := by
  cases s with
  | nil => exact ht
  | cons c s => exact hs

/-- What follows no smaller letter than its first one does not change how the letters before it are
read. -/
theorem romanValue_append {s t : Text} (h : lead t ≤ trail s) :
    romanValue (s ++ t) = romanValue s + romanValue t := by
  induction s with
  | nil => simp [romanValue]
  | cons c s ih =>
    cases s with
    | nil =>
      have hc : ¬ letterValue c < lead t := Nat.not_lt.2 h
      rw [List.singleton_append, romanValue_cons, if_neg hc, romanValue_singleton]
    | cons d s =>
      have hrest : romanValue (d :: s ++ t) = romanValue (d :: s) + romanValue t := by
        apply ih
        rwa [trail, List.getLast?_cons_cons] at h
      have hlead : lead (d :: s ++ t) = lead (d :: s) := rfl
      rw [List.cons_append, romanValue_cons, hrest, hlead, romanValue_cons c, Int.add_assoc]

/-! ## Signs -/

/-- Whether signs can be written one after the other, each as often as needed, so that they are read one
by one. -/
structure IsScale (signs : List (Nat × Text)) : Prop where
  /-- A sign by itself is read as what it stands for. -/
  value : ∀ e ∈ signs, romanValue e.2 = e.1
  /-- The letters do not rise from a sign to the same one again. -/
  again : ∀ e ∈ signs, lead e.2 ≤ trail e.2
  /-- The letters do not rise from a sign to a later one. -/
  falling : signs.Pairwise fun e f => lead f.2 ≤ trail e.2

/-- What no sign is left for of a number. -/
def leftOver (signs : List (Nat × Text)) (n : Nat) : Nat := signs.foldl (fun n e => n % e.1) n

theorem lead_replicate_append_le {s t : Text} {bound : Nat} (hs : lead s ≤ bound) (ht : lead t ≤ bound)
    (n : Nat) : lead ((List.replicate n s).flatten ++ t) ≤ bound := by
  induction n with
  | zero => exact ht
  | succ n ih =>
    rw [List.replicate_succ, List.flatten_cons, List.append_assoc]
    exact lead_append_le hs ih

theorem lead_additive_le {signs : List (Nat × Text)} {bound : Nat} (h : ∀ e ∈ signs, lead e.2 ≤ bound)
    (n : Nat) : lead (additive signs n) ≤ bound := by
  induction signs generalizing n with
  | nil => exact Nat.zero_le bound
  | cons e signs ih =>
    rw [List.forall_mem_cons] at h
    exact lead_replicate_append_le h.1 (ih h.2 _) _

theorem romanValue_replicate_append {s t : Text} (hs : lead s ≤ trail s) (ht : lead t ≤ trail s)
    (n : Nat) : romanValue ((List.replicate n s).flatten ++ t) = n * romanValue s + romanValue t := by
  induction n with
  | zero => simp
  | succ n ih =>
    rw [List.replicate_succ, List.flatten_cons, List.append_assoc,
      romanValue_append (lead_replicate_append_le hs ht n), ih]
    push_cast
    ring

/-- What is written with the signs of a scale is read as the number but for what is left over. -/
theorem romanValue_additive {signs : List (Nat × Text)} (h : IsScale signs) (n : Nat) :
    romanValue (additive signs n) + leftOver signs n = n := by
  induction signs generalizing n with
  | nil => simp [additive, romanValue, leftOver]
  | cons e signs ih =>
    obtain ⟨hvalue, hagain, hfalling⟩ := h
    rw [List.forall_mem_cons] at hvalue hagain
    rw [List.pairwise_cons] at hfalling
    have hrest := ih ⟨hvalue.2, hagain.2, hfalling.2⟩ (n % e.1)
    have hn : ((n / e.1 : Nat) : Int) * e.1 + (n % e.1 : Nat) = n := by
      exact_mod_cast Nat.div_add_mod' n e.1
    rw [additive, romanValue_replicate_append hagain.1 (lead_additive_le hfalling.1 _), hvalue.1,
      leftOver, List.foldl_cons, ← leftOver, Int.add_assoc, hrest, hn]

theorem mem_of_mem_additive {signs : List (Nat × Text)} {n : Nat} {c : Char}
    (h : c ∈ additive signs n) : ∃ e ∈ signs, c ∈ e.2 := by
  induction signs generalizing n with
  | nil => exact absurd h List.not_mem_nil
  | cons e signs ih =>
    rw [additive, List.mem_append, List.mem_flatten] at h
    rcases h with ⟨s, hs, hc⟩ | h
    · exact ⟨e, List.mem_cons_self, List.eq_of_mem_replicate hs ▸ hc⟩
    · obtain ⟨f, hf, hc⟩ := ih h
      exact ⟨f, List.mem_cons_of_mem _ hf, hc⟩

/-! ## Roman numerals -/

theorem isScale_romanSigns : IsScale romanSigns := ⟨by decide, by decide, by decide⟩

/-- A Roman numeral is read as the number that it was written for. -/
theorem romanValue_roman (n : Nat) : romanValue (roman n) = n := by
  have hleft : leftOver romanSigns n = 0 := Nat.mod_one _
  have h := romanValue_additive isScale_romanSigns n
  rwa [hleft, Nat.cast_zero, Int.add_zero] at h

theorem roman_ne_nil {n : Nat} (hn : 0 < n) : roman n ≠ [] := by
  intro h
  have hvalue := romanValue_roman n
  rw [h, romanValue] at hvalue
  omega

theorem mem_latin_of_mem_roman {n : Nat} {c : Char} (h : c ∈ roman n) : c ∈ latin := by
  have hsigns : ∀ e ∈ romanSigns, e.2 ⊆ latin := by decide
  obtain ⟨e, he, hc⟩ := mem_of_mem_additive h
  exact hsigns e he hc

end GeneratedContent.Counter
