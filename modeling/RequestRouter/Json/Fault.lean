/-!
# Faults of a JSON text

What can be wrong with a text, and where. A fault keeps the bytes that had not been read when it
was found, from which its line and column follow. Beside it stand the classes of bytes that all
readers share.
-/

namespace RequestRouter.Json.Parser

inductive SyntaxFault where
  | endInArray
  | endInObject
  | endInString
  | endInValue
  | expectedColon
  | expectedCommaInArray
  | expectedCommaInObject
  | expectedWord
  | expectedValue
  | invalidEscape
  | invalidNumber
  | numberOutOfRange
  | invalidCodePoint
  | controlCharacter
  | nameNotString
  | loneSurrogate
  | endOfHexEscape
  | trailingComma
  | trailingCharacters
  | tooDeep
deriving Repr, DecidableEq

def SyntaxFault.message : SyntaxFault → String
  | .endInArray => "EOF while parsing a list"
  | .endInObject => "EOF while parsing an object"
  | .endInString => "EOF while parsing a string"
  | .endInValue => "EOF while parsing a value"
  | .expectedColon => "expected `:`"
  | .expectedCommaInArray => "expected `,` or `]`"
  | .expectedCommaInObject => "expected `,` or `\x7d`"
  | .expectedWord => "expected ident"
  | .expectedValue => "expected value"
  | .invalidEscape => "invalid escape"
  | .invalidNumber => "invalid number"
  | .numberOutOfRange => "number out of range"
  | .invalidCodePoint => "invalid unicode code point"
  | .controlCharacter => "control character (\\u0000-\\u001F) found while parsing a string"
  | .nameNotString => "key must be a string"
  | .loneSurrogate => "lone leading surrogate in hex escape"
  | .endOfHexEscape => "unexpected end of hex escape"
  | .trailingComma => "trailing comma"
  | .trailingCharacters => "trailing characters"
  | .tooDeep => "recursion limit exceeded"

/-- A fault with the bytes after the place where it was found. -/
structure Fault where
  cause : SyntaxFault
  unread : List UInt8

abbrev Reading (α : Type) := Except Fault (α × List UInt8)

/-- A fault of the bytes already read. -/
def faultAt {α : Type} (cause : SyntaxFault) (unread : List UInt8) : Except Fault α :=
  .error ⟨cause, unread⟩

/-- A fault of the next byte, which counts as read. -/
def faultPast {α : Type} (cause : SyntaxFault) (unread : List UInt8) : Except Fault α :=
  .error ⟨cause, unread.drop 1⟩

def isSpace (b : UInt8) : Bool :=
  b == 0x20 || b == 0x0A || b == 0x09 || b == 0x0D

def skipSpace (bs : List UInt8) : List UInt8 :=
  bs.dropWhile isSpace

def isDigit (b : UInt8) : Bool :=
  0x30 ≤ b && b ≤ 0x39

def digit (b : UInt8) : Nat :=
  b.toNat - 0x30

/-- The rest of the word `null`, `true` or `false`. -/
def word : (expected : List UInt8) → List UInt8 → Except Fault (List UInt8)
  | [], bs => .ok bs
  | _ :: _, [] => faultAt .endInValue []
  | e :: es, b :: bs => if b = e then word es bs else faultAt .expectedWord bs

end RequestRouter.Json.Parser
