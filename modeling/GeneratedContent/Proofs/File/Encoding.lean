import GeneratedContent.File.Encoding
import Mathlib.Tactic.SplitIfs

/-!
# Text that is written to files

The bytes that a text is written as are read as that text (`decode_encode`), so that two texts with
the same bytes are the same.
-/

namespace GeneratedContent.Text

/-! ## What the first byte says -/

section Lead

variable {n : Nat}

theorem toNat_ofNat_byte (h : n < 0x100) : (UInt8.ofNat n).toNat = n := UInt8.toNat_ofNat_of_lt' h

theorem leadByte?_two (hlo : 0xC2 ≤ n) (hhi : n < 0xE0) :
    leadByte? (UInt8.ofNat n) = some { bits := n - 0xC0, following := 1 } := by
  simp only [leadByte?, toNat_ofNat_byte (Nat.lt_trans hhi (by decide : 0xE0 < 0x100))]
  rw [if_neg (by omega), if_pos hhi]

theorem leadByte?_three (hlo : 0xE0 ≤ n) (hhi : n < 0xF0) :
    leadByte? (UInt8.ofNat n) = some {
      bits := n - 0xE0, following := 2
      least := if n = 0xE0 then 0xA0 else 0x80
      greatest := if n = 0xED then 0x9F else 0xBF } := by
  simp only [leadByte?, toNat_ofNat_byte (Nat.lt_trans hhi (by decide : 0xF0 < 0x100))]
  rw [if_neg (by omega), if_neg (by omega)]
  split_ifs <;> first | omega | simp_all

theorem leadByte?_four (hlo : 0xF0 ≤ n) (hhi : n ≤ 0xF4) :
    leadByte? (UInt8.ofNat n) = some {
      bits := n - 0xF0, following := 3
      least := if n = 0xF0 then 0x90 else 0x80
      greatest := if n = 0xF4 then 0x8F else 0xBF } := by
  simp only [leadByte?, toNat_ofNat_byte (Nat.lt_of_le_of_lt hhi (by decide : 0xF4 < 0x100))]
  rw [if_neg (by omega), if_neg (by omega), if_neg (by omega), if_neg (by omega),
    if_neg (by omega)]
  split_ifs <;> first | omega | simp_all

end Lead

/-! ## One character -/

/-- A byte that follows adds its six bits. -/
theorem cutFollowing_ofNat {n least greatest : Nat} (hlo : least ≤ n) (hhi : n ≤ greatest)
    (hsize : n < 0x100) (count bits following : Nat) (bytes : List UInt8) :
    cutFollowing count bits (following + 1) least greatest (UInt8.ofNat n :: bytes)
      = cutFollowing (count + 1) (bits * 64 + (n - 0x80)) following 0x80 0xBF bytes := by
  rw [cutFollowing, toNat_ofNat_byte hsize, if_pos ⟨hlo, hhi⟩]

theorem cutCharacter_of_lt {n : Nat} (h : n < 0x80) (bytes : List UInt8) :
    cutCharacter (UInt8.ofNat n) bytes = .ok (Char.ofNat n, bytes) := by
  have hn : (UInt8.ofNat n).toNat = n := toNat_ofNat_byte (by omega)
  rw [cutCharacter, if_pos (by rw [UInt8.lt_iff_toNat_lt, hn]; exact h), hn]

theorem cutCharacter_of_le {n : Nat} (hlo : 0x80 ≤ n) (hsize : n < 0x100) {lead : LeadByte}
    (h : leadByte? (UInt8.ofNat n) = some lead) (bytes : List UInt8) :
    cutCharacter (UInt8.ofNat n) bytes
      = cutFollowing 1 lead.bits lead.following lead.least lead.greatest bytes := by
  have hnot : ¬ UInt8.ofNat n < 0x80 := by
    rw [UInt8.lt_iff_toNat_lt, toNat_ofNat_byte hsize]
    exact Nat.not_lt.mpr hlo
  rw [cutCharacter, if_neg hnot, h]

/-- The bytes of a character are read as this character, whatever stands behind them. -/
theorem exists_cutCharacter (c : Char) (rest : List UInt8) :
    ∃ b bytes, String.utf8EncodeChar c = b :: bytes ∧
      cutCharacter b (bytes ++ rest) = .ok (c, rest) := by
  have hvalid : c.toNat < 0xD800 ∨ 0xDFFF < c.toNat ∧ c.toNat < 0x110000 := c.valid
  have hc : Char.ofNat c.toNat = c := Char.ofNat_toNat c
  simp only [String.utf8EncodeChar]
  rw [show c.val.toNat = c.toNat from rfl]
  generalize c.toNat = v at hvalid hc
  -- One case for each number of bytes; in each, the bits that the bytes hold make up `v` again.
  split_ifs with h1 h2 h3
  · exact ⟨_, _, rfl, by rw [List.nil_append, cutCharacter_of_lt (by omega), hc]⟩
  · refine ⟨_, _, rfl, ?_⟩
    rw [cutCharacter_of_le (by omega) (by omega) (leadByte?_two (by omega) (by omega))]
    simp only [List.cons_append, List.nil_append]
    rw [cutFollowing_ofNat (by omega) (by omega) (by omega), cutFollowing]
    rw [show (v / 64 % 32 + 192 - 0xC0) * 64 + (v % 64 + 128 - 0x80) = v by omega, hc]
  · refine ⟨_, _, rfl, ?_⟩
    rw [cutCharacter_of_le (by omega) (by omega) (leadByte?_three (by omega) (by omega))]
    simp only [List.cons_append, List.nil_append]
    rw [cutFollowing_ofNat (by split_ifs <;> omega) (by split_ifs <;> omega) (by omega),
      cutFollowing_ofNat (by omega) (by omega) (by omega), cutFollowing]
    rw [show ((v / 4096 % 16 + 224 - 0xE0) * 64 + (v / 64 % 64 + 128 - 0x80)) * 64
      + (v % 64 + 128 - 0x80) = v by omega, hc]
  · refine ⟨_, _, rfl, ?_⟩
    rw [cutCharacter_of_le (by omega) (by omega) (leadByte?_four (by omega) (by omega))]
    simp only [List.cons_append, List.nil_append]
    rw [cutFollowing_ofNat (by split_ifs <;> omega) (by split_ifs <;> omega) (by omega),
      cutFollowing_ofNat (by omega) (by omega) (by omega),
      cutFollowing_ofNat (by omega) (by omega) (by omega), cutFollowing]
    rw [show (((v / 262144 % 8 + 240 - 0xF0) * 64 + (v / 4096 % 64 + 128 - 0x80)) * 64
      + (v / 64 % 64 + 128 - 0x80)) * 64 + (v % 64 + 128 - 0x80) = v by omega, hc]

/-! ## A text -/

theorem decodeFrom_encode (offset : Nat) (s : Text) : decodeFrom offset (encode s) = .ok s := by
  induction s generalizing offset with
  | nil => simp [encode, decodeFrom]
  | cons c s ih =>
    obtain ⟨b, bytes, hb, hcut⟩ := exists_cutCharacter c (encode s)
    rw [show encode (c :: s) = b :: (bytes ++ encode s) by
      rw [encode, List.flatMap_cons, hb, List.cons_append, encode]]
    rw [decodeFrom]
    split
    · simp_all
    · simp_all

/-- What is written is read as it was written. -/
theorem decode_encode (s : Text) : decode (encode s) = .ok s := decodeFrom_encode 0 s

theorem encode_inj {s t : Text} : encode s = encode t ↔ s = t := by
  refine ⟨fun h => ?_, fun h => h ▸ rfl⟩
  have := decode_encode s
  rw [h, decode_encode] at this
  exact (Except.ok.inj this).symm

end GeneratedContent.Text
