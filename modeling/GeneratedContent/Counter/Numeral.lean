import GeneratedContent.Text.Blank
import GeneratedContent.Text.Letter
import GeneratedContent.Text.Lowercase

/-!
# Numerals

The ways to write the value of a counter. Roman numerals reach to 3999, alphabetic numerals have no
zero, and every style writes in decimal what it has no numeral for.
-/

namespace GeneratedContent.Counter

/-- The Roman signs with what they stand for, greatest first. -/
def romanSigns : List (Nat × Text) := [
  (1000, "m".toList), (900, "cm".toList), (500, "d".toList), (400, "cd".toList),
  (100, "c".toList), (90, "xc".toList), (50, "l".toList), (40, "xl".toList),
  (10, "x".toList), (9, "ix".toList), (5, "v".toList), (4, "iv".toList), (1, "i".toList)]

/-- A number written with signs: each sign as often as it goes into what the signs before it
left. -/
def additive : List (Nat × Text) → Nat → Text
  | [], _ => []
  | (amount, sign) :: signs, n =>
    (List.replicate (n / amount) sign).flatten ++ additive signs (n % amount)

/-- The Roman numeral of a number. -/
def roman (n : Nat) : Text := additive romanSigns n

/-- The digits of a number in the bijective numeration over an alphabet, last digit first: the
letters stand for one up to the base, and none stands for zero. -/
def alphabeticReversed (alphabet : Text) (n : Nat) : Text :=
  if h : n = 0 then []
  else
    alphabet.getD ((n - 1) % alphabet.length) 'a' ::
      alphabeticReversed alphabet ((n - 1) / alphabet.length)
termination_by n
decreasing_by
  have := Nat.div_le_self (n - 1) alphabet.length
  omega

/-- The alphabetic numeral of a number: a, b, …, z, aa, ab, … -/
def alphabetic (alphabet : Text) (n : Nat) : Text := (alphabeticReversed alphabet n).reverse

/-- The Latin letters. -/
def latin : Text := "abcdefghijklmnopqrstuvwxyz".toList

/-- The Greek letters, without the final sigma. -/
def greek : Text := "αβγδεζηθικλμνξοπρστυφχψω".toList

/-- The upper case of a numeral in ASCII letters. -/
def upper (numeral : Text) : Text := numeral.map Char.toUpper

/-- A number in decimal with at least two digits. -/
def twoDigits (n : Nat) : Text :=
  if n < 10 then '0' :: Text.ofNat n else Text.ofNat n

/-- A positive counter value in a style. -/
def formatPositive (n : Nat) (style : Text) : Text :=
  if style = "lower-roman".toList ∧ n < 4000 then roman n
  else if style = "upper-roman".toList ∧ n < 4000 then upper (roman n)
  else if style = "lower-alpha".toList ∨ style = "lower-latin".toList then alphabetic latin n
  else if style = "upper-alpha".toList ∨ style = "upper-latin".toList then
    upper (alphabetic latin n)
  else if style = "lower-greek".toList then alphabetic greek n
  else Text.ofNat n

/-- A counter value in the style of a name; letter case and outer blanks of the name do not
matter. -/
def format (value : Int) (style : Text) : Text :=
  let style := Text.lower (Text.trim style)
  if style = "decimal-leading-zero".toList then
    if 0 ≤ value then twoDigits value.toNat else '-' :: twoDigits (-value).toNat
  else if value ≤ 0 then Text.ofInt value
  else formatPositive value.toNat style

end GeneratedContent.Counter
