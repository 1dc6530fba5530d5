import GeneratedContent.Text.Letter

/-!
# Characters of ASCII

A class of characters that lies within ASCII is small enough to go through, so that what holds of all
its members can be found by trying them.
-/

namespace GeneratedContent

/-- What holds of the first 128 characters holds of every character of ASCII. -/
theorem forall_ascii {P : Char → Prop} (h : ∀ n < 0x80, P (Char.ofNat n)) {c : Char}
    (hc : c.toNat < 0x80) : P c := by
  have hn := h c.toNat hc
  rwa [Char.ofNat_toNat] at hn

theorem toNat_lt_of_isAlphanum {c : Char} (h : c.isAlphanum = true) : c.toNat < 0x80 := by
  have hbelow : ∀ last : Char, last.toNat < 0x80 → c.val ≤ last.val → c.toNat < 0x80 :=
    fun last hlast hle => Nat.lt_of_le_of_lt (UInt32.le_iff_toNat_le.1 hle) hlast
  have hclass : (c.isUpper || c.isLower || c.isDigit) = true := h
  rw [Bool.or_eq_true, Bool.or_eq_true] at hclass
  rcases hclass with (hupper | hlower) | hdigit
  · exact hbelow 'Z' (by decide) (of_decide_eq_true hupper).2
  · exact hbelow 'z' (by decide) (of_decide_eq_true (Bool.and_eq_true_iff.1 hlower).2)
  · exact hbelow '9' (by decide) (of_decide_eq_true (Bool.and_eq_true_iff.1 hdigit).2)

end GeneratedContent
