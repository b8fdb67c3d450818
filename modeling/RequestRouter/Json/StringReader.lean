import RequestRouter.Decimal.Reading
import RequestRouter.Json.Fault
import RequestRouter.Text.Utf8

/-!
# Reading JSON strings

The bytes up to the closing quote, with the escapes among them replaced. A character past U+FFFF
is written as two escapes, which have to stand side by side.
-/

namespace RequestRouter.Json.Parser

def hexDigit? (b : UInt8) : Option Nat :=
  Decimal.digitValue? 16 (Char.ofNat b.toNat)

def hexUnit (bs : List UInt8) : Reading Nat :=
  match bs with
  | a :: b :: c :: d :: rest =>
    match [a, b, c, d].mapM hexDigit? with
    | some ds => .ok (ds.foldl (fun n d => n * 16 + d) 0, rest)
    | none => faultAt .invalidEscape rest
  | _ => faultAt .endInString []

/-- The next byte has to be `expected`, inside a pair of escapes for one character. -/
def pairByte (expected : UInt8) (bs : List UInt8) : Except Fault (List UInt8) :=
  match bs with
  | [] => faultAt .endInString []
  | b :: rest => if b = expected then .ok rest else faultAt .endOfHexEscape rest

/-- The character of an escape `\uXXXX`, or of two that make up a surrogate pair. -/
def unicodeEscape (bs : List UInt8) : Except Fault (Char × List UInt8) := do
  let (unit, bs) ← hexUnit bs
  if 0xDC00 ≤ unit ∧ unit ≤ 0xDFFF then faultAt .loneSurrogate bs
  else if unit < 0xD800 ∨ 0xDBFF < unit then .ok (Char.ofNat unit, bs)
  else
    let bs ← pairByte 0x5C bs
    let bs ← pairByte 0x75 bs
    let (low, bs) ← hexUnit bs
    if low < 0xDC00 ∨ 0xDFFF < low then faultAt .loneSurrogate bs
    else .ok (Char.ofNat ((unit - 0xD800) * 1024 + (low - 0xDC00) + 0x10000), bs)

def escape (bs : List UInt8) : Reading Char :=
  match bs with
  | [] => faultAt .endInString []
  | 0x22 :: rest => .ok ('"', rest)
  | 0x5C :: rest => .ok ('\\', rest)
  | 0x2F :: rest => .ok ('/', rest)
  | 0x62 :: rest => .ok ('\x08', rest)
  | 0x66 :: rest => .ok ('\x0c', rest)
  | 0x6E :: rest => .ok ('\n', rest)
  | 0x72 :: rest => .ok ('\r', rest)
  | 0x74 :: rest => .ok ('\t', rest)
  | 0x75 :: rest => unicodeEscape rest
  | _ :: rest => faultAt .invalidEscape rest

/-- The fault of a string whose text is not UTF-8. It is found out at the closing quote, and put
as many bytes before that quote as the text has from its first wrong byte on. The text has its
escapes replaced, so this is the wrong byte's own place unless an escape follows it. `start` holds
the bytes after the opening quote, `rest` those after the closing one. -/
def brokenText {α : Type} (start text rest : List UInt8) : Except Fault α :=
  let back := (Utf8.fromFirstBroken 0 text).length
  faultPast .invalidCodePoint (start.drop (start.length - (back + 1 + rest.length)))

/-- A string after its opening quote; `start` holds all bytes after that quote. `done` holds the
bytes of its text so far, last one first; `fuel` is at least the number of bytes. -/
def stringBody (start : List UInt8) :
    (fuel : Nat) → (done : List UInt8) → List UInt8 → Reading String
  | 0, _, _ => faultAt .endInString []
  | _ + 1, _, [] => faultAt .endInString []
  | fuel + 1, done, b :: rest =>
    if b == 0x22 then
      match Utf8.decode? done.reverse with
      | some s => .ok (s, rest)
      | none => brokenText start done.reverse rest
    else if b == 0x5C then
      match escape rest with
      | .error e => .error e
      | .ok (c, rest) =>
        stringBody start fuel ((Utf8.encode (String.ofList [c])).reverse ++ done) rest
    else if b < 0x20 then faultAt .controlCharacter rest
    else stringBody start fuel (b :: done) rest

def stringRest (bs : List UInt8) : Reading String :=
  stringBody bs (bs.length + 1) [] bs

end RequestRouter.Json.Parser
