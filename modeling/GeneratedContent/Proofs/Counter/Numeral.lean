import GeneratedContent.Proofs.Counter.Alphabetic
import GeneratedContent.Proofs.Counter.Roman
import Mathlib.Data.Bool.AllAny
import Mathlib.Logic.Function.Basic
import Mathlib.Tactic.SplitIfs

/-!
# Numerals are told apart

Every numeral can be read back in its style (`read_format`), so no style writes two values alike
(`format_injective`). A numeral shows with its first character which of the ways to write it has been
taken: a hyphen and a digit begin a decimal numeral, and a letter begins one of the style's own.
-/

namespace GeneratedContent.Counter

/-! ## Reading a numeral -/

/-- The number that digits write in decimal. -/
def decimalValue (digits : Text) : Nat := Nat.ofDigitChars 10 digits 0

/-- The number that letters write in a style; the case of Roman and of Latin letters does not matter. -/
def lettersValue (style letters : Text) : Int :=
  if style = "lower-roman".toList ∨ style = "upper-roman".toList then
    romanValue (Text.lowerAscii letters)
  else if style = "lower-greek".toList then alphabeticValue greek letters
  else alphabeticValue latin (Text.lowerAscii letters)

/-- The value that a numeral shows in a style. -/
def read (style : Text) : Text → Int
  | [] => 0
  | c :: s =>
    if c = '-' then -decimalValue s
    else if c.isDigit then decimalValue (c :: s)
    else lettersValue (Text.lower (Text.trim style)) (c :: s)

/-- Whether a character begins a numeral of letters. -/
def BeginsLetters (c : Char) : Prop := c ≠ '-' ∧ c.isDigit = false

instance (c : Char) : Decidable (BeginsLetters c) := inferInstanceAs (Decidable (_ ∧ _))

variable {style : Text}

theorem read_minus (digits : Text) : read style ('-' :: digits) = -decimalValue digits := by
  rw [read, if_pos rfl]

theorem read_digits {c : Char} (hc : c.isDigit = true) (s : Text) :
    read style (c :: s) = decimalValue (c :: s) := by
  have hminus : c ≠ '-' := by
    rintro rfl
    exact absurd hc (by decide)
  rw [read, if_neg hminus, if_pos hc]

/-- A numeral over an alphabet is read as letters if every letter begins one. -/
theorem read_letters {alphabet s : Text} (hs : s ≠ []) (h : ∀ c ∈ s, c ∈ alphabet)
    (hbegins : ∀ c ∈ alphabet, BeginsLetters c) :
    read style s = lettersValue (Text.lower (Text.trim style)) s := by
  cases s with
  | nil => exact absurd rfl hs
  | cons c s =>
    obtain ⟨hminus, hdigit⟩ := hbegins c (h c List.mem_cons_self)
    rw [read, if_neg hminus, if_neg (Bool.eq_false_iff.1 hdigit)]

/-! ## Decimal numerals -/

theorem decimalValue_ofNat (n : Nat) : decimalValue (Text.ofNat n) = n := Nat.ofDigitChars_ten_toDigits

/-- A zero in front says nothing. -/
theorem decimalValue_zero_cons (digits : Text) : decimalValue ('0' :: digits) = decimalValue digits := by
  rw [decimalValue, Nat.ofDigitChars_cons]
  rfl

theorem decimalValue_twoDigits (n : Nat) : decimalValue (twoDigits n) = n := by
  rw [twoDigits]
  split
  · rw [decimalValue_zero_cons, decimalValue_ofNat]
  · exact decimalValue_ofNat n

theorem read_ofNat (n : Nat) : read style (Text.ofNat n) = n := by
  have hdigits : ∀ c ∈ Text.ofNat n, c.isDigit := fun _ =>
    Nat.isDigit_of_mem_toDigits (by decide) (by decide)
  cases hs : Text.ofNat n with
  | nil => exact absurd hs Nat.toDigits_ne_nil
  | cons c s =>
    rw [read_digits (hdigits c (hs ▸ List.mem_cons_self)), ← hs, decimalValue_ofNat]

theorem read_ofInt (value : Int) : read style (Text.ofInt value) = value := by
  cases value with
  | ofNat n => exact read_ofNat n
  | negSucc n => rw [Text.ofInt, read_minus, decimalValue_ofNat, Int.negSucc_eq, Nat.cast_succ]

theorem read_twoDigits (n : Nat) : read style (twoDigits n) = n := by
  rw [twoDigits]
  split
  case isTrue => rw [read_digits (by decide), decimalValue_zero_cons, decimalValue_ofNat]
  case isFalse => exact read_ofNat n

/-! ## Numerals of letters -/

theorem beginsLetters_latin : ∀ c ∈ latin, BeginsLetters c := List.all_iff_forall_prop.1 (by decide)

theorem beginsLetters_upper_latin : ∀ c ∈ upper latin, BeginsLetters c :=
  List.all_iff_forall_prop.1 (by decide)

theorem beginsLetters_greek : ∀ c ∈ greek, BeginsLetters c := List.all_iff_forall_prop.1 (by decide)

theorem lowerAscii_latin {s : Text} (h : ∀ c ∈ s, c ∈ latin) : Text.lowerAscii s = s := by
  have hlower : ∀ c ∈ latin, c.toLower = c := List.all_iff_forall_prop.1 (by decide)
  exact (List.map_congr_left fun c hc => hlower c (h c hc)).trans (List.map_id' s)

theorem lowerAscii_upper {s : Text} (h : ∀ c ∈ s, c ∈ latin) : Text.lowerAscii (upper s) = s := by
  have hlower : ∀ c ∈ latin, c.toUpper.toLower = c := List.all_iff_forall_prop.1 (by decide)
  rw [Text.lowerAscii, upper, List.map_map]
  exact (List.map_congr_left fun c hc => hlower c (h c hc)).trans (List.map_id' s)

/-- A numeral in Latin letters is read alike in upper case, but for the style that is written in Greek
ones. -/
theorem read_upper {s : Text} (hs : s ≠ []) (h : ∀ c ∈ s, c ∈ latin)
    (hstyle : Text.lower (Text.trim style) ≠ "lower-greek".toList) :
    read style (upper s) = lettersValue (Text.lower (Text.trim style)) s := by
  have hne : upper s ≠ [] := by rwa [upper, ne_eq, List.map_eq_nil_iff]
  have hupper : ∀ c ∈ upper s, c ∈ upper latin := by
    intro c hc
    obtain ⟨d, hd, rfl⟩ := List.mem_map.1 hc
    exact List.mem_map_of_mem (h d hd)
  rw [read_letters hne hupper beginsLetters_upper_latin, lettersValue, lettersValue, if_neg hstyle,
    if_neg hstyle, lowerAscii_upper h, lowerAscii_latin h]

theorem lettersValue_roman {name : Text} (h : name = "lower-roman".toList ∨ name = "upper-roman".toList)
    (n : Nat) : lettersValue name (roman n) = n := by
  rw [lettersValue, if_pos h, lowerAscii_latin fun _ => mem_latin_of_mem_roman, romanValue_roman]

theorem lettersValue_latin {name : Text} (hroman : ¬ (name = "lower-roman".toList ∨
    name = "upper-roman".toList)) (hgreek : name ≠ "lower-greek".toList) (n : Nat) :
    lettersValue name (alphabetic latin n) = n := by
  have hlatin : latin ≠ [] := by decide
  have hdistinct : latin.Nodup := by decide
  rw [lettersValue, if_neg hroman, if_neg hgreek, lowerAscii_latin (mem_of_mem_alphabetic hlatin n),
    alphabeticValue_alphabetic hlatin hdistinct]

theorem lettersValue_greek (n : Nat) :
    lettersValue "lower-greek".toList (alphabetic greek n) = n := by
  have hgreek : greek ≠ [] := by decide
  have hdistinct : greek.Nodup := by decide
  rw [lettersValue, if_neg (by decide), if_pos rfl, alphabeticValue_alphabetic hgreek hdistinct]

/-! ## All styles -/

/-- The numeral of a positive value is read as this value. -/
theorem read_formatPositive {n : Nat} (hn : 0 < n) :
    read style (formatPositive n (Text.lower (Text.trim style))) = n := by
  have hlatin : latin ≠ [] := by decide
  have hgreek : greek ≠ [] := by decide
  have hroman : ∀ c ∈ roman n, c ∈ latin := fun _ => mem_latin_of_mem_roman
  unfold formatPositive
  split_ifs with hlower hupper halpha hupperAlpha hname
  · rw [read_letters (roman_ne_nil hn) hroman beginsLetters_latin, lettersValue_roman (.inl hlower.1)]
  · rw [read_upper (roman_ne_nil hn) hroman (by rw [hupper.1]; decide),
      lettersValue_roman (.inr hupper.1)]
  · rw [read_letters (alphabetic_ne_nil hlatin hn) (mem_of_mem_alphabetic hlatin n)
      beginsLetters_latin]
    rcases halpha with h | h <;> rw [h] <;> exact lettersValue_latin (by decide) (by decide) n
  · rw [read_upper (alphabetic_ne_nil hlatin hn) (mem_of_mem_alphabetic hlatin n)]
    · rcases hupperAlpha with h | h <;> rw [h] <;> exact lettersValue_latin (by decide) (by decide) n
    · rcases hupperAlpha with h | h <;> rw [h] <;> decide
  · rw [read_letters (alphabetic_ne_nil hgreek hn) (mem_of_mem_alphabetic hgreek n)
      beginsLetters_greek, hname, lettersValue_greek]
  · exact read_ofNat n

/-- Every numeral is read as the value that it was written for. -/
theorem read_format (value : Int) (style : Text) : read style (format value style) = value := by
  unfold format
  dsimp only
  split_ifs with hpadded hsign hsign
  · rw [read_twoDigits, Int.toNat_of_nonneg hsign]
  · rw [read_minus, decimalValue_twoDigits, Int.toNat_of_nonneg (by omega), Int.neg_neg]
  · exact read_ofInt value
  · rw [read_formatPositive (by omega), Int.toNat_of_nonneg (by omega)]

example : format 3999 " Upper-ROMAN".toList = "MMMCMXCIX".toList ∧
    format 4000 " Upper-ROMAN".toList = "4000".toList := by decide +kernel

/-- Two values never look the same in a style. -/
theorem format_injective (style : Text) : Function.Injective fun value => format value style :=
  Function.LeftInverse.injective fun value => read_format value style

end GeneratedContent.Counter
