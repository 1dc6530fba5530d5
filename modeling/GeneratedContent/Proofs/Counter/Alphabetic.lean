import GeneratedContent.Counter.Numeral
import Mathlib.Data.List.GetD
import Mathlib.Data.List.Induction
import Mathlib.Data.List.Shortlex
import Mathlib.Data.Nat.Digits.Defs
import Mathlib.Data.Set.Function

/-!
# Alphabetic numerals

The words over an alphabet, the shorter ones first and those of one length in the order of the alphabet,
number the positive integers without a gap (`isBijectiveNumeration_alphabetic`): there is no zero, so
every word is the numeral of one number. The number of a word is its positional value with digits from one
to the base.
-/

namespace GeneratedContent.Counter

variable {alphabet : Text}

/-! ## Words -/

/-- The words over an alphabet that have a letter. -/
def wordsOver (alphabet : Text) : Set Text := {word | word ≠ [] ∧ ∀ c ∈ word, c ∈ alphabet}

/-- The number that a word stands for: its letters are digits from one on, the last one counts once, and
each counts the base times what the one behind it does. -/
def alphabeticValue (alphabet word : Text) : Nat :=
  Nat.ofDigits alphabet.length (word.reverse.map fun c => alphabet.idxOf c + 1)

/-- Whether a word comes before another: it is shorter, or as long and before the other in the order of
the alphabet. -/
def ComesBefore (alphabet : Text) : Text → Text → Prop :=
  List.Shortlex fun c d => alphabet.idxOf c < alphabet.idxOf d

@[simp] theorem alphabeticValue_nil : alphabeticValue alphabet [] = 0 := rfl

theorem alphabeticValue_concat (word : Text) (c : Char) :
    alphabeticValue alphabet (word ++ [c]) =
      alphabeticValue alphabet word * alphabet.length + alphabet.idxOf c + 1 := by
  rw [alphabeticValue, List.reverse_append, List.reverse_singleton, List.singleton_append, List.map_cons,
    Nat.ofDigits_cons, alphabeticValue]
  ring

/-- Of two words of one length, what is put behind them does not change which one comes first. -/
theorem lex_append_of_length_eq {r : Char → Char → Prop} {s t : Text} (h : List.Lex r s t)
    (hlength : s.length = t.length) (u v : Text) : List.Lex r (s ++ u) (t ++ v) := by
  induction h with
  | nil => simp at hlength
  | cons _ ih => exact .cons (ih (Nat.succ.inj hlength))
  | rel h => exact .rel h

theorem ComesBefore.concat {s t : Text} (h : ComesBefore alphabet s t) (c d : Char) :
    ComesBefore alphabet (s ++ [c]) (t ++ [d]) := by
  rcases List.shortlex_def.1 h with hshorter | ⟨hlength, hlex⟩
  · apply List.Shortlex.of_length_lt
    simpa using hshorter
  · apply List.Shortlex.of_lex
    · simpa using hlength
    · exact lex_append_of_length_eq hlex hlength [c] [d]

/-! ## One digit -/

@[simp] theorem alphabetic_zero : alphabetic alphabet 0 = [] := by
  rw [alphabetic, alphabeticReversed, dif_pos rfl, List.reverse_nil]

/-- What is left of a number when its last digit has been taken off. -/
def withoutDigit (alphabet : Text) (n : Nat) : Nat := (n - 1) / alphabet.length

theorem withoutDigit_digit (n : Nat) {i : Nat} (hi : i < alphabet.length) :
    withoutDigit alphabet (n * alphabet.length + i + 1) = n := by
  rw [withoutDigit, Nat.add_sub_cancel, Nat.mul_comm, Nat.mul_add_div (Nat.zero_lt_of_lt hi),
    Nat.div_eq_of_lt hi, Nat.add_zero]

/-- The last letter of a numeral is told by the remainder, and the letters before it are the numeral of
the quotient. -/
theorem alphabetic_digit (n : Nat) {i : Nat} (hi : i < alphabet.length) :
    alphabetic alphabet (n * alphabet.length + i + 1) = alphabetic alphabet n ++ [alphabet[i]] := by
  have hquotient : (n * alphabet.length + i + 1 - 1) / alphabet.length = n := withoutDigit_digit n hi
  have hremainder : (n * alphabet.length + i + 1 - 1) % alphabet.length = i := by
    rw [Nat.add_sub_cancel, Nat.mul_comm, Nat.mul_add_mod, Nat.mod_eq_of_lt hi]
  rw [alphabetic, alphabeticReversed, dif_neg (Nat.succ_ne_zero _), hquotient, hremainder,
    List.reverse_cons, List.getD_eq_getElem _ _ hi, alphabetic]

/-- Every positive number is a quotient with a last digit behind it, so what holds of zero and goes from
the quotient to the number holds of all numbers. -/
theorem digit_induction {motive : Nat → Prop} (hne : alphabet ≠ []) (zero : motive 0)
    (digit : ∀ n i, i < alphabet.length → motive n → motive (n * alphabet.length + i + 1)) (n : Nat) :
    motive n := by
  induction n using Nat.strong_induction_on with
  | _ n ih =>
    have hbase : 0 < alphabet.length := List.length_pos_iff.2 hne
    cases n with
    | zero => exact zero
    | succ n =>
      have hlt : n / alphabet.length < n + 1 := Nat.lt_succ_of_le (Nat.div_le_self _ _)
      rw [← Nat.div_add_mod' n alphabet.length]
      exact digit _ _ (Nat.mod_lt n hbase) (ih _ hlt)

/-! ## Numerals and their values -/

theorem mem_of_mem_alphabetic (hne : alphabet ≠ []) (n : Nat) :
    ∀ c ∈ alphabetic alphabet n, c ∈ alphabet := by
  induction n using digit_induction hne with
  | zero => simp
  | digit n i hi ih =>
    intro c hc
    rw [alphabetic_digit n hi, List.mem_append, List.mem_singleton] at hc
    rcases hc with hc | rfl
    · exact ih c hc
    · exact List.getElem_mem hi

theorem alphabetic_ne_nil (hne : alphabet ≠ []) {n : Nat} (hn : 0 < n) :
    alphabetic alphabet n ≠ [] := by
  induction n using digit_induction hne with
  | zero => exact absurd hn (Nat.lt_irrefl 0)
  | digit n i hi _ =>
    rw [alphabetic_digit n hi]
    exact List.append_ne_nil_of_right_ne_nil _ (List.cons_ne_nil _ _)

theorem alphabeticValue_alphabetic (hne : alphabet ≠ []) (hdistinct : alphabet.Nodup) (n : Nat) :
    alphabeticValue alphabet (alphabetic alphabet n) = n := by
  induction n using digit_induction hne with
  | zero => simp
  | digit n i hi ih =>
    rw [alphabetic_digit n hi, alphabeticValue_concat, ih, hdistinct.idxOf_getElem]

theorem alphabetic_alphabeticValue {word : Text} (h : ∀ c ∈ word, c ∈ alphabet) :
    alphabetic alphabet (alphabeticValue alphabet word) = word := by
  induction word using List.reverseRecOn with
  | nil => simp
  | append_singleton word c ih =>
    have hc : alphabet.idxOf c < alphabet.length := List.idxOf_lt_length_of_mem (h c (by simp))
    rw [alphabeticValue_concat, alphabetic_digit _ hc, List.getElem_idxOf,
      ih fun d hd => h d (List.mem_append_left _ hd)]

theorem alphabeticValue_pos {word : Text} (h : word ≠ []) : 0 < alphabeticValue alphabet word := by
  induction word using List.reverseRecOn with
  | nil => exact absurd rfl h
  | append_singleton word c _ =>
    rw [alphabeticValue_concat]
    exact Nat.succ_pos _

/-! ## The order of the numerals -/

theorem comesBefore_alphabetic (hne : alphabet ≠ []) (hdistinct : alphabet.Nodup) {m n : Nat}
    (h : m < n) : ComesBefore alphabet (alphabetic alphabet m) (alphabetic alphabet n) := by
  induction n using digit_induction hne generalizing m with
  | zero => exact absurd h (Nat.not_lt_zero m)
  | digit n j hj ih =>
    rw [alphabetic_digit n hj]
    cases m using digit_induction hne with
    | zero => exact List.Shortlex.of_length_lt (by simp)
    | digit m i hi _ =>
      rw [alphabetic_digit m hi]
      -- the quotients decide, and the last digits only where the quotients are the same
      rcases Nat.lt_trichotomy m n with hmn | rfl | hmn
      · exact (ih hmn).concat _ _
      · have hij : i < j := by omega
        apply List.Shortlex.append_left
        rw [List.shortlex_singleton_iff, hdistinct.idxOf_getElem, hdistinct.idxOf_getElem]
        exact hij
      · have := Nat.mul_le_mul_right alphabet.length hmn
        rw [Nat.succ_mul] at this
        omega

instance : Std.Asymm (ComesBefore alphabet) :=
  have : Std.Asymm fun c d => alphabet.idxOf c < alphabet.idxOf d := ⟨fun _ _ => Nat.lt_asymm⟩
  List.Shortlex.asymm

theorem comesBefore_alphabetic_iff (hne : alphabet ≠ []) (hdistinct : alphabet.Nodup) {m n : Nat} :
    ComesBefore alphabet (alphabetic alphabet m) (alphabetic alphabet n) ↔ m < n := by
  refine ⟨fun h => Nat.lt_of_not_le fun hnm => ?_, comesBefore_alphabetic hne hdistinct⟩
  rcases Nat.eq_or_lt_of_le hnm with rfl | hlt
  · exact Std.Asymm.asymm _ _ h h
  · exact Std.Asymm.asymm _ _ h (comesBefore_alphabetic hne hdistinct hlt)

/-! ## The whole numeration -/

/-- A number is used up when as many digits have been taken off as its numeral has, and not before. -/
theorem iterate_withoutDigit_eq_zero_iff (hne : alphabet ≠ []) (n k : Nat) :
    (withoutDigit alphabet)^[k] n = 0 ↔ (alphabetic alphabet n).length ≤ k := by
  induction n using digit_induction hne generalizing k with
  | zero =>
    have hzero : withoutDigit alphabet 0 = 0 := Nat.zero_div _
    simp [Function.iterate_fixed hzero]
  | digit n i hi ih =>
    rw [alphabetic_digit n hi, List.length_append, List.length_singleton]
    cases k with
    | zero => simp
    | succ k => rw [Function.iterate_succ_apply, withoutDigit_digit n hi, ih, Nat.succ_le_succ_iff]

/-- Whether numerals are a bijective numeration over an alphabet. -/
structure IsBijectiveNumeration (alphabet : Text) (numeral : Nat → Text) : Prop where
  /-- Taking off digits comes to an end, after as many as there are letters in the numeral. -/
  ends : ∀ n k, (withoutDigit alphabet)^[k] n = 0 ↔ (numeral n).length ≤ k
  /-- The positive numbers and the words with a letter are one to one. -/
  bijOn : Set.BijOn numeral {n | 0 < n} (wordsOver alphabet)
  /-- The numerals are in the order of the numbers. -/
  comesBefore_iff : ∀ m n, ComesBefore alphabet (numeral m) (numeral n) ↔ m < n
  /-- The number of a word is its positional value. -/
  invOn : Set.InvOn (alphabeticValue alphabet) numeral {n | 0 < n} (wordsOver alphabet)

/-- The alphabetic numerals are a bijective numeration, whatever the alphabet is. -/
theorem isBijectiveNumeration_alphabetic (hne : alphabet ≠ []) (hdistinct : alphabet.Nodup) :
    IsBijectiveNumeration alphabet (alphabetic alphabet) := by
  have hinv : Set.InvOn (alphabeticValue alphabet) (alphabetic alphabet) {n | 0 < n}
      (wordsOver alphabet) :=
    ⟨fun n _ => alphabeticValue_alphabetic hne hdistinct n, fun _ h => alphabetic_alphabeticValue h.2⟩
  have hnumeral : Set.MapsTo (alphabetic alphabet) {n | 0 < n} (wordsOver alphabet) :=
    fun n hn => ⟨alphabetic_ne_nil hne hn, mem_of_mem_alphabetic hne n⟩
  have hvalue : Set.MapsTo (alphabeticValue alphabet) (wordsOver alphabet) {n | 0 < n} :=
    fun _ h => alphabeticValue_pos h.1
  exact {
    ends := iterate_withoutDigit_eq_zero_iff hne
    bijOn := hinv.bijOn hnumeral hvalue
    comesBefore_iff := fun _ _ => comesBefore_alphabetic_iff hne hdistinct
    invOn := hinv }

/-- The two alphabets that counters are written in, and what comes behind the last word of two letters. -/
theorem isBijectiveNumeration_latin :
    IsBijectiveNumeration latin (alphabetic latin) ∧ IsBijectiveNumeration greek (alphabetic greek) ∧
      alphabetic latin 702 = "zz".toList ∧ alphabetic latin 703 = "aaa".toList ∧
      alphabetic greek 600 = "ωω".toList ∧ alphabetic greek 601 = "ααα".toList :=
  ⟨isBijectiveNumeration_alphabetic (by decide) (by decide),
    isBijectiveNumeration_alphabetic (by decide) (by decide), by decide +kernel, by decide +kernel,
    by decide +kernel, by decide +kernel⟩

end GeneratedContent.Counter
