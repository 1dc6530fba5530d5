import GeneratedContent.Text.Letter
import GeneratedContent.Text.Quoted

/-!
# Text in files

A file holds a text in UTF-8. A text that is written and read again is the same, but for its line
ends: reading takes a carriage return, with or without a line feed behind it, for the end of a line.
-/

namespace GeneratedContent

/-- Why bytes are no text. -/
inductive Malformation where
  /-- A byte that begins no character. -/
  | start
  /-- A character that another byte breaks off. -/
  | continuation
  /-- A character that the end of the file breaks off. -/
  | ending
deriving DecidableEq, Repr

/-- A place where bytes are no text. -/
structure EncodingError where
  /-- The offset of the first byte that belongs to no character. -/
  position : Nat
  /-- The first of these bytes. -/
  first : UInt8
  /-- The number of these bytes. -/
  count : Nat
  /-- Why they are no character. -/
  reason : Malformation
deriving DecidableEq, Repr

namespace EncodingError

/-- What is said about the reason. -/
def reasonText : Malformation → Text
  | .start => "invalid start byte".toList
  | .continuation => "invalid continuation byte".toList
  | .ending => "unexpected end of data".toList

/-- What is said about such a place: a single byte is shown, of several only where they stand. -/
def message (e : EncodingError) : Text :=
  let place :=
    if e.count = 1 then
      "byte 0x".toList ++ Text.paddedHex 2 e.first.toNat ++ " in position ".toList ++
        Text.ofNat e.position
    else
      "bytes in position ".toList ++ Text.ofNat e.position ++ '-' ::
        Text.ofNat (e.position + e.count - 1)
  "'utf-8' codec can't decode ".toList ++ place ++ ": ".toList ++ reasonText e.reason

end EncodingError

namespace Text

/-- The bytes of a text. -/
def encode (s : Text) : List UInt8 := s.flatMap String.utf8EncodeChar

/-- What the first byte of a character says: the bits it holds, how many bytes follow, and between
which bounds the next of them lies. -/
structure LeadByte where
  /-- The bits of the character that the byte holds. -/
  bits : Nat
  /-- The number of bytes that follow. -/
  following : Nat
  /-- The least value of the next byte. -/
  least : Nat := 0x80
  /-- The greatest value of the next byte. -/
  greatest : Nat := 0xBF

/-- What a byte says as the first of several. The bounds rule out forms that are longer than needed,
surrogates, and numbers beyond the last character. -/
def leadByte? (b : UInt8) : Option LeadByte :=
  let n := b.toNat
  if n < 0xC2 then none
  else if n < 0xE0 then some { bits := n - 0xC0, following := 1 }
  else if n = 0xE0 then some { bits := 0, following := 2, least := 0xA0 }
  else if n = 0xED then some { bits := n - 0xE0, following := 2, greatest := 0x9F }
  else if n < 0xF0 then some { bits := n - 0xE0, following := 2 }
  else if n = 0xF0 then some { bits := 0, following := 3, least := 0x90 }
  else if n < 0xF4 then some { bits := n - 0xF0, following := 3 }
  else if n = 0xF4 then some { bits := 4, following := 3, greatest := 0x8F }
  else none

/-- Reads the bytes that follow the first ones of a character, of which there have been `count`. The
answer is the character and the bytes behind it, or how many bytes have been read and why no more. -/
def cutFollowing (count bits : Nat) : (following : Nat) → (least greatest : Nat) → List UInt8 →
    Except (Nat × Malformation) (Char × List UInt8)
  | 0, _, _, bytes => .ok (Char.ofNat bits, bytes)
  | _ + 1, _, _, [] => .error (count, .ending)
  | following + 1, least, greatest, b :: bytes =>
    if least ≤ b.toNat ∧ b.toNat ≤ greatest then
      cutFollowing (count + 1) (bits * 64 + (b.toNat - 0x80)) following 0x80 0xBF bytes
    else .error (count, .continuation)

/-- The character that begins with a byte, and the bytes behind it. -/
def cutCharacter (b : UInt8) (bytes : List UInt8) :
    Except (Nat × Malformation) (Char × List UInt8) :=
  if b < 0x80 then .ok (Char.ofNat b.toNat, bytes)
  else
    match leadByte? b with
    | none => .error (1, .start)
    | some lead => cutFollowing 1 lead.bits lead.following lead.least lead.greatest bytes

theorem length_cutFollowing {count bits following least greatest : Nat} {bytes rest : List UInt8}
    {c : Char} (h : cutFollowing count bits following least greatest bytes = .ok (c, rest)) :
    rest.length ≤ bytes.length := by
  fun_induction cutFollowing count bits following least greatest bytes with
  | case1 => simp_all
  | case2 => simp at h
  | case3 count bits following least greatest b bytes hb ih =>
    have := ih h
    simp only [List.length_cons]
    omega
  | case4 => simp at h

theorem length_cutCharacter {b : UInt8} {bytes rest : List UInt8} {c : Char}
    (h : cutCharacter b bytes = .ok (c, rest)) : rest.length ≤ bytes.length := by
  unfold cutCharacter at h
  split at h
  · simp_all
  · split at h
    · simp at h
    · exact length_cutFollowing h

/-- The text of bytes that stand at an offset. -/
def decodeFrom (offset : Nat) (bytes : List UInt8) : Except EncodingError Text :=
  match bytes with
  | [] => .ok []
  | b :: bytes =>
    match _h : cutCharacter b bytes with
    | .error (count, reason) => .error ⟨offset, b, count, reason⟩
    | .ok (c, rest) =>
      match decodeFrom (offset + 1 + (bytes.length - rest.length)) rest with
      | .error e => .error e
      | .ok s => .ok (c :: s)
termination_by bytes.length
decreasing_by
  have := length_cutCharacter _h
  simp only [List.length_cons]
  omega

/-- The text of bytes. -/
def decode (bytes : List UInt8) : Except EncodingError Text := decodeFrom 0 bytes

/-- A text in which every line ends in a line feed. -/
def withLineFeeds : Text → Text
  | [] => []
  | '\r' :: '\n' :: s => '\n' :: withLineFeeds s
  | c :: s => (if c = '\r' then '\n' else c) :: withLineFeeds s

end Text

end GeneratedContent
