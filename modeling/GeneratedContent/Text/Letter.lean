import GeneratedContent.Text.Tables

/-!
# Letters, digits and words

Classes of characters: those of Unicode that make up words, and the ASCII ones that names and
numbers of the markup languages are written in.
-/

namespace GeneratedContent

/-- Whether a character belongs to a word: a letter, a digit or the underscore. -/
def isWordChar (c : Char) : Bool :=
  if c.toNat < 0x80 then c.isAlphanum || c == '_'
  else Text.Tables.covers Text.Tables.alphanumeric c.toNat

/-- Whether a character is a decimal digit of some script. -/
def isDecimalDigit (c : Char) : Bool :=
  if c.toNat < 0x80 then c.isDigit
  else Text.Tables.covers Text.Tables.decimalDigits c.toNat

/-- The value of a hexadecimal digit. -/
def hexValue? (c : Char) : Option Nat :=
  if c.isDigit then some (c.toNat - '0'.toNat)
  else if 'a' ≤ c ∧ c ≤ 'f' then some (c.toNat - 'a'.toNat + 10)
  else if 'A' ≤ c ∧ c ≤ 'F' then some (c.toNat - 'A'.toNat + 10)
  else none

/-- Whether a character is a hexadecimal digit. -/
def isHexDigit (c : Char) : Bool := (hexValue? c).isSome

/-- The character that the number of an escape names; the replacement character where there is
none. -/
def namedChar (n : Nat) : Char :=
  if n = 0 ∨ 0x10FFFF < n ∨ (0xD800 ≤ n ∧ n ≤ 0xDFFF) then '\uFFFD' else Char.ofNat n

namespace Text

/-- A text in lower case, where only ASCII letters have case. -/
def lowerAscii (s : Text) : Text := s.map Char.toLower

/-- The digits of the numeric escape that a text begins with, at most six. -/
def escapeDigits (s : Text) : Text := (s.take 6).takeWhile isHexDigit

/-- The number that digits write in a base. -/
def toNumber (base : Nat) (digits : Text) : Nat :=
  digits.foldl (fun n c => n * base + (hexValue? c).getD 0) 0

/-- The decimal digits of a number. -/
def ofNat (n : Nat) : Text := Nat.toDigits 10 n

/-- An integer in decimal, with a hyphen in front of a negative one. -/
def ofInt : Int → Text
  | .ofNat n => ofNat n
  | .negSucc n => '-' :: ofNat (n + 1)

end Text

end GeneratedContent
