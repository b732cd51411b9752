/-!
# Faults of a JSON text

Why a text is not JSON, and where. A position counts lines from one and bytes from the start of the
line.
-/

namespace FrameHost.Json

/-- Why a text is not JSON. -/
inductive Fault where
  | endOfValue
  | endOfList
  | endOfObject
  | endOfString
  | expectedValue
  | expectedIdent
  | invalidNumber
  | numberOutOfRange
  | expectedListEnd
  | expectedObjectEnd
  | expectedColon
  | trailingComma
  | keyNotString
  | controlCharacter
  | invalidEscape
  | loneSurrogate
  | endOfHexEscape
  | tooDeep
  | trailingCharacters
deriving DecidableEq, Repr

/-- The wording of a fault. -/
def Fault.message : Fault → String
  | .endOfValue => "EOF while parsing a value"
  | .endOfList => "EOF while parsing a list"
  | .endOfObject => "EOF while parsing an object"
  | .endOfString => "EOF while parsing a string"
  | .expectedValue => "expected value"
  | .expectedIdent => "expected ident"
  | .invalidNumber => "invalid number"
  | .numberOutOfRange => "number out of range"
  | .expectedListEnd => "expected `,` or `]`"
  | .expectedObjectEnd => "expected `,` or `\x7d`"
  | .expectedColon => "expected `:`"
  | .trailingComma => "trailing comma"
  | .keyNotString => "key must be a string"
  | .controlCharacter => "control character (\\u0000-\\u001F) found while parsing a string"
  | .invalidEscape => "invalid escape"
  | .loneSurrogate => "lone leading surrogate in hex escape"
  | .endOfHexEscape => "unexpected end of hex escape"
  | .tooDeep => "recursion limit exceeded"
  | .trailingCharacters => "trailing characters"

/-- A fault met while reading: it lies `bytes` bytes into what was left of the text. -/
structure Stop where
  fault : Fault
  rest : List Char
  bytes : Nat
deriving DecidableEq, Repr

/-- A fault at the next character of the text. -/
def Stop.next (fault : Fault) (rest : List Char) : Stop := ⟨fault, rest, 1⟩

/-- A fault before the next character of the text. -/
def Stop.here (fault : Fault) (rest : List Char) : Stop := ⟨fault, rest, 0⟩

/-- A fault with its position. -/
structure SyntaxError where
  fault : Fault
  line : Nat
  column : Nat
deriving DecidableEq, Repr

/-- The wording of a fault with its position. -/
def SyntaxError.message (e : SyntaxError) : String :=
  e.fault.message ++ " at line " ++ toString e.line ++ " column " ++ toString e.column

/-- The number of bytes of a text in UTF-8. -/
def byteSize (cs : List Char) : Nat := cs.foldl (fun n c => n + c.utf8Size) 0

/-- The line and the column after the first `bytes` bytes of a text, from a given position on. -/
def locate (line column : Nat) : (bytes : Nat) → List Char → Nat × Nat
  | bytes, [] => (line, column + bytes)
  | bytes, c :: cs =>
    if bytes < c.utf8Size then (line, column + bytes)
    else if c = '\n' then locate (line + 1) 0 (bytes - 1) cs
    else locate line (column + c.utf8Size) (bytes - c.utf8Size) cs

/-- The position of a fault in the text that was read. -/
def Stop.locate (s : Stop) (text : List Char) : SyntaxError :=
  let total := byteSize text
  let (line, column) := Json.locate 1 0 (min (total - byteSize s.rest + s.bytes) total) text
  ⟨s.fault, line, column⟩

end FrameHost.Json
