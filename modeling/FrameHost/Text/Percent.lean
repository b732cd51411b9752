/-!
# Percent-encoding

A text as the bytes of its UTF-8 form, each byte that a query could misread written as `%` and two
hexadecimal digits.
-/

namespace FrameHost.Text

/-- The bytes of a text in UTF-8. -/
def bytes (s : String) : List UInt8 := s.toUTF8.toList

/-- A hexadecimal digit, in upper case. -/
def upperHex (n : Nat) : Char :=
  if n < 10 then Char.ofNat (0x30 + n) else Char.ofNat (0x41 + n - 10)

/-- A byte as `%` and two digits. -/
def percentByte (b : UInt8) : List Char := ['%', upperHex (b.toNat / 16), upperHex (b.toNat % 16)]

/-- Whether a byte stands for itself: a letter, a digit, or one of `-_.~`. -/
def isUnreserved (b : UInt8) : Bool :=
  let c := Char.ofNat b.toNat
  b < 0x80 && (c.isAlphanum || c = '-' || c = '_' || c = '.' || c = '~')

/-- A byte of an encoded text. -/
def encodeByte (b : UInt8) : List Char :=
  if isUnreserved b then [Char.ofNat b.toNat] else percentByte b

/-- A text with every byte encoded that is not unreserved. -/
def percentEncode (s : String) : String := String.ofList ((bytes s).flatMap encodeByte)

end FrameHost.Text
