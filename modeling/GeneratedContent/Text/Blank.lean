import GeneratedContent.Text.Basic

/-!
# Blanks

The white space of Unicode, and what is done with it: trimming, splitting into words, and
collapsing. The zero width space and the byte order mark are not blank.
-/

namespace GeneratedContent

/-- Whether a character is white space: the control characters from tab to carriage return and
from file separator to unit separator, the next line, and the space separators of Unicode. -/
def isBlank (c : Char) : Bool :=
  let n := c.toNat
  (0x09 ≤ n && n ≤ 0x0D) || (0x1C ≤ n && n ≤ 0x20) || n == 0x85 || n == 0xA0 || n == 0x1680 ||
    (0x2000 ≤ n && n ≤ 0x200A) || n == 0x2028 || n == 0x2029 || n == 0x202F || n == 0x205F ||
    n == 0x3000

/-- Whether a character is white space of the markup languages, which know the space, the tab, the
line feed, the form feed and the carriage return. -/
def isSpace (c : Char) : Bool :=
  c == ' ' || c == '\t' || c == '\n' || c == '\x0C' || c == '\r'

namespace Text

/-- A text without its leading blanks. -/
def trimLeft (s : Text) : Text := s.dropWhile isBlank

/-- A text without its trailing blanks. -/
def trimRight (s : Text) : Text := (s.reverse.dropWhile isBlank).reverse

/-- A text without its leading and trailing blanks. -/
def trim (s : Text) : Text := trimRight (trimLeft s)

/-- The longest pieces of a text without a blank. -/
def words (s : Text) : List Text := (splitWhere isBlank s).filter (!·.isEmpty)

/-- A text with its words one space apart. -/
def collapseBlanks (s : Text) : Text := List.intercalate [' '] (words s)

theorem length_trimLeft_le (s : Text) : (trimLeft s).length ≤ s.length :=
  (List.dropWhile_sublist isBlank).length_le

end Text

end GeneratedContent
