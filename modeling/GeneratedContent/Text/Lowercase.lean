import GeneratedContent.Text.Tables

/-!
# Lower case

The lower case of a text. Two characters do not have one lower-case character of their own: the
capital I with a dot above becomes an i and a combining dot, and the capital sigma becomes the final
form where a word ends and the common form elsewhere.
-/

namespace GeneratedContent

/-- The lower case of one character, taken by itself. -/
def lowerChar (c : Char) : Char :=
  let n := c.toNat
  if n < 0x80 then c.toLower
  else if n = 0x130 then 'i'
  else if n = 0x3A3 then 'σ'
  else
    match Text.Tables.lowerCase.find? fun r => r.1 ≤ n && n ≤ r.2.1 && (n - r.1) % r.2.2.1 == 0 with
    | some r => Char.ofNat (n + r.2.2.2).toNat
    | none => c

/-- Whether a character is passed over when the end of a word is looked for. -/
def isPassedOver (c : Char) : Bool :=
  if c.toNat < 0x80 then ['\'', '.', ':', '^', Char.ofNat 0x60].contains c
  else Text.Tables.covers Text.Tables.passedOver c.toNat

/-- Whether a character has case, and so belongs to a word. -/
def isCased (c : Char) : Bool :=
  if c.toNat < 0x80 then c.isAlpha else Text.Tables.covers Text.Tables.cased c.toNat

namespace Text

/-- Whether the nearest character that counts is cased. -/
def meetsCased (s : Text) : Bool := ((s.dropWhile isPassedOver).head?.map isCased).getD false

/-- The lower case of a text that follows `before`, which is given last character first. -/
def lowerAfter (before : Text) : Text → Text
  | [] => []
  | c :: s =>
    let image : Text :=
      if c = 'Σ' then [if meetsCased before && !meetsCased s then 'ς' else 'σ']
      else if c = 'İ' then ['i', '\u0307']
      else [lowerChar c]
    image ++ lowerAfter (c :: before) s

/-- The lower case of a text. -/
def lower (s : Text) : Text := lowerAfter [] s

end Text

end GeneratedContent
