import RequestRouter.Json.Basic
import RequestRouter.Json.Fault

/-!
# Reading JSON numbers

The first digits that fit an unsigned integer of 64 bits make the significand. It is multiplied
or divided once by a power of ten, so the result can differ from the nearest double in its last
place.
-/

namespace RequestRouter.Json.Parser

/-- `significand * 10 ^ exponent`, by at most 308 decimal places at a time; `none` on overflow.
`fuel` bounds the number of steps. -/
def scale : (fuel : Nat) → Float → Int → Option Float
  | 0, _, _ => some 0.0
  | fuel + 1, x, exponent =>
    if exponent.natAbs ≤ 308 then
      let power := Float.ofScientific 1 false exponent.natAbs
      if 0 ≤ exponent then
        let y := x * power
        if y.isInf then none else some y
      else some (x / power)
    else if x == 0.0 then some x
    else if 0 ≤ exponent then none
    else scale fuel (x / Float.ofScientific 1 false 308) (exponent + 308)

def signedDouble (negative : Bool) (x : Float) : Number :=
  (Number.ofFloat? (if negative then -x else x)).getD .zero

def fromParts (negative : Bool) (significand : Nat) (exponent : Int) (bs : List UInt8) :
    Reading Number :=
  match scale 8 (Float.ofNat significand) exponent with
  | some x => .ok (signedDouble negative x, bs)
  | none => faultAt .numberOutOfRange bs

/-- The exponent's greatest value; a greater one is out of range or stands for zero. -/
def exponentLimit : Nat := 0x7FFFFFFF

def exponentDigits (negative positiveExponent : Bool) (significand : Nat) (start : Int) :
    (value : Nat) → List UInt8 → Reading Number
  | value, [] => finish value []
  | value, b :: bs =>
    if isDigit b then
      if exponentLimit < value * 10 + digit b then
        if significand ≠ 0 ∧ positiveExponent then faultAt .numberOutOfRange bs
        else .ok (signedDouble negative 0.0, bs.dropWhile isDigit)
      else exponentDigits negative positiveExponent significand start (value * 10 + digit b) bs
    else finish value (b :: bs)
where
  finish (value : Nat) (bs : List UInt8) : Reading Number :=
    fromParts negative significand
      (if positiveExponent then start + value else start - value) bs

def exponentPart (negative : Bool) (significand : Nat) (start : Int) (bs : List UInt8) :
    Reading Number :=
  let (positiveExponent, bs) := match bs with
    | 0x2B :: rest => (true, rest)
    | 0x2D :: rest => (false, rest)
    | _ => (true, bs)
  match bs with
  | [] => faultAt .endInValue []
  | b :: rest =>
    if isDigit b then exponentDigits negative positiveExponent significand start (digit b) rest
    else faultAt .invalidNumber rest

def afterDigits (negative : Bool) (significand : Nat) (exponent : Int) (bs : List UInt8) :
    Reading Number :=
  match bs with
  | b :: rest =>
    if b == 0x65 || b == 0x45 then exponentPart negative significand exponent rest
    else fromParts negative significand exponent bs
  | [] => fromParts negative significand exponent []

/-- The digits after the point; `places` of them have been read. -/
def fractionDigits (negative : Bool) (start : Int) :
    (significand places : Nat) → List UInt8 → Reading Number
  | significand, places, [] =>
    if places = 0 then faultPast .endInValue []
    else afterDigits negative significand (start - places) []
  | significand, places, b :: bs =>
    if isDigit b then
      if 0x10000000000000000 ≤ significand * 10 + digit b then
        afterDigits negative significand (start - places) ((b :: bs).dropWhile isDigit)
      else fractionDigits negative start (significand * 10 + digit b) (places + 1) bs
    else if places = 0 then faultPast .invalidNumber (b :: bs)
    else afterDigits negative significand (start - places) (b :: bs)

/-- The digits of an integer too long for 64 bits count as places only. -/
def longInteger (negative : Bool) (significand : Nat) :
    (places : Nat) → List UInt8 → Reading Number
  | places, [] => fromParts negative significand places []
  | places, b :: bs =>
    if isDigit b then longInteger negative significand (places + 1) bs
    else if b == 0x2E then fractionDigits negative places significand 0 bs
    else afterDigits negative significand places (b :: bs)

/-- The end of the integer part. A negative integer below -2^63, and `-0`, are doubles. -/
def integerEnd (negative : Bool) (significand : Nat) (bs : List UInt8) : Reading Number :=
  let plain : Reading Number :=
    let double := signedDouble negative (Float.ofNat significand)
    if negative then
      if significand = 0 ∨ 0x8000000000000000 < significand then .ok (double, bs)
      else .ok ((Number.ofInt? (-(significand : Int))).getD double, bs)
    else .ok ((Number.ofInt? significand).getD double, bs)
  match bs with
  | b :: rest =>
    if b == 0x2E then fractionDigits negative 0 significand 0 rest
    else if b == 0x65 || b == 0x45 then exponentPart negative significand 0 rest
    else plain
  | [] => plain

def integerDigits (negative : Bool) : (significand : Nat) → List UInt8 → Reading Number
  | significand, [] => integerEnd negative significand []
  | significand, b :: bs =>
    if isDigit b then
      if 0x10000000000000000 ≤ significand * 10 + digit b then
        longInteger negative significand 0 (b :: bs)
      else integerDigits negative (significand * 10 + digit b) bs
    else integerEnd negative significand (b :: bs)

/-- A number after its sign. A leading zero is the only digit of the integer part. -/
def number (negative : Bool) (bs : List UInt8) : Reading Number :=
  match bs with
  | [] => faultAt .endInValue []
  | b :: rest =>
    if b == 0x30 then
      match rest with
      | c :: _ => if isDigit c then faultPast .invalidNumber rest else integerEnd negative 0 rest
      | [] => integerEnd negative 0 []
    else if isDigit b then integerDigits negative (digit b) rest
    else faultAt .invalidNumber rest

end RequestRouter.Json.Parser
