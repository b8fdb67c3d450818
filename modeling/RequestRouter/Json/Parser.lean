import RequestRouter.Json.NumberReader
import RequestRouter.Json.StringReader

/-!
# Reading JSON

A reader over bytes. Each function takes the bytes before it and gives back what it read with
the bytes after it. Arrays and objects nest up to 127 deep; of repeated members the last one
wins.
-/

namespace RequestRouter.Json.Parser

/-- The items of an array up to its closing bracket. `done` holds the items so far, last one
first; `fuel` is at least the number of bytes. -/
def items (item : List UInt8 → Reading Json) :
    (fuel : Nat) → (done : List Json) → List UInt8 → Reading Json
  | 0, _, bs => faultAt .endInArray bs
  | fuel + 1, done, bs =>
    match skipSpace bs with
    | [] => faultPast .endInArray []
    | b :: rest =>
      if b == 0x5D then .ok (.array done.reverse, rest)
      else if done.isEmpty then next fuel done (b :: rest)
      else if b == 0x2C then
        match skipSpace rest with
        | [] => faultPast .endInValue []
        | c :: tail =>
          if c == 0x5D then faultPast .trailingComma (c :: tail) else next fuel done (c :: tail)
      else faultPast .expectedCommaInArray (b :: rest)
where
  next (fuel : Nat) (done : List Json) (bs : List UInt8) : Reading Json :=
    match item bs with
    | .error e => .error e
    | .ok (v, rest) => items item fuel (v :: done) rest

def member (item : List UInt8 → Reading Json) (bs : List UInt8) :
    Except Fault ((String × Json) × List UInt8) := do
  let (name, bs) ← stringRest bs
  match skipSpace bs with
  | [] => faultPast .endInObject []
  | b :: rest =>
    if b == 0x3A then do
      let (v, rest) ← item rest
      .ok ((name, v), rest)
    else faultPast .expectedColon (b :: rest)

/-- The members of an object up to its closing brace. `done` holds the members so far, in
order; `fuel` is at least the number of bytes. -/
def members (item : List UInt8 → Reading Json) :
    (fuel : Nat) → (first : Bool) → (done : Table Json) → List UInt8 → Reading Json
  | 0, _, _, bs => faultAt .endInObject bs
  | fuel + 1, first, done, bs =>
    match skipSpace bs with
    | [] => faultPast .endInObject []
    | b :: rest =>
      if b == 0x7D then .ok (.ofTable done, rest)
      else if first then
        if b == 0x22 then next fuel done rest else faultPast .nameNotString (b :: rest)
      else if b == 0x2C then
        match skipSpace rest with
        | [] => faultPast .endInValue []
        | c :: tail =>
          if c == 0x22 then next fuel done tail
          else if c == 0x7D then faultPast .trailingComma (c :: tail)
          else faultPast .nameNotString (c :: tail)
      else faultPast .expectedCommaInObject (b :: rest)
where
  next (fuel : Nat) (done : Table Json) (bs : List UInt8) : Reading Json :=
    match member item bs with
    | .error e => .error e
    | .ok ((name, v), rest) => members item fuel false (done.insert name v) rest

/-- A value. Containers nest up to `depth` deep. -/
def value : (depth : Nat) → List UInt8 → Reading Json
  | depth, bs =>
    match skipSpace bs with
    | [] => faultPast .endInValue []
    | b :: rest =>
      if b == 0x6E then (word [0x75, 0x6C, 0x6C] rest).map (.null, ·)
      else if b == 0x74 then (word [0x72, 0x75, 0x65] rest).map (.bool true, ·)
      else if b == 0x66 then (word [0x61, 0x6C, 0x73, 0x65] rest).map (.bool false, ·)
      else if b == 0x2D then (number true rest).map fun (n, left) => (.number n, left)
      else if isDigit b then (number false (b :: rest)).map fun (n, left) => (.number n, left)
      else if b == 0x22 then (stringRest rest).map fun (s, left) => (.string s, left)
      else if b == 0x5B || b == 0x7B then
        match depth with
        | 0 => faultPast .tooDeep (b :: rest)
        | inner + 1 =>
          if b == 0x5B then items (value inner) (rest.length + 1) [] rest
          else members (value inner) (rest.length + 1) true .empty rest
      else faultPast .expectedValue (b :: rest)

/-- Line and column of the place after `index` bytes. Lines count from one; the column is the
number of bytes since the line began. -/
def location (bs : List UInt8) (index : Nat) : Nat × Nat :=
  let before := bs.take index
  (1 + before.count 0x0A, (before.reverse.takeWhile (· != 0x0A)).length)

/-- A value, with nothing but space after it. -/
def document (bs : List UInt8) : Except Fault Json := do
  let (v, rest) ← value 127 bs
  match skipSpace rest with
  | [] => .ok v
  | left => faultPast .trailingCharacters left

end Parser

structure ParseError where
  cause : Parser.SyntaxFault
  line : Nat
  column : Nat
deriving Repr, DecidableEq

def ParseError.message (e : ParseError) : String :=
  s!"{e.cause.message} at line {e.line} column {e.column}"

def parse (bs : List UInt8) : Except ParseError Json :=
  (Parser.document bs).mapError fun fault =>
    let (line, column) := Parser.location bs (bs.length - fault.unread.length)
    ⟨fault.cause, line, column⟩

end RequestRouter.Json
