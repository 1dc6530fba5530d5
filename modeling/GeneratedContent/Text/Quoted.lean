import GeneratedContent.Text.Letter

/-!
# Texts in messages

How a message shows a text that it names: in quotes, with everything that has no visible form
written as an escape, so that the message stays on one line and shows where the text ends.
-/

namespace GeneratedContent

/-- Whether a character has a visible form. The space has one, other separators have none. -/
def isVisible (c : Char) : Bool :=
  if c.toNat < 0x80 then 0x20 ≤ c.toNat && c.toNat < 0x7F
  else !Text.Tables.covers Text.Tables.invisible c.toNat

namespace Text

/-- A number in lower-case hexadecimal, padded with zeros to a width. -/
def paddedHex (width n : Nat) : Text :=
  let digits := Nat.toDigits 16 n
  List.replicate (width - digits.length) '0' ++ digits

/-- How one character is shown between the given quotes. -/
def shownChar (quote c : Char) : Text :=
  if c = quote ∨ c = '\\' then ['\\', c]
  else if c = '\n' then ['\\', 'n']
  else if c = '\r' then ['\\', 'r']
  else if c = '\t' then ['\\', 't']
  else if isVisible c then [c]
  else if c.toNat < 0x100 then ['\\', 'x'] ++ paddedHex 2 c.toNat
  else if c.toNat < 0x10000 then ['\\', 'u'] ++ paddedHex 4 c.toNat
  else ['\\', 'U'] ++ paddedHex 8 c.toNat

/-- A text in single quotes, or in double quotes when it holds a single quote and no double one. -/
def inQuotes (s : Text) : Text :=
  let quote := if s.contains '\'' && !s.contains '"' then '"' else '\''
  quote :: s.flatMap (shownChar quote) ++ [quote]

end Text

end GeneratedContent
