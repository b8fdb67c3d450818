/-!
# Reading numbers

Integers in a base, with bounds that are checked on the exact value, and decimal fractions that
are rounded to the nearest double.
-/

namespace RequestRouter.Decimal

/-- The value of a digit in bases up to sixteen, letters in either case. -/
def digitValue? (base : Nat) (c : Char) : Option Nat :=
  let n := c.toNat
  let value :=
    if 48 ≤ n ∧ n ≤ 57 then some (n - 48)
    else if 97 ≤ n ∧ n ≤ 102 then some (n - 87)
    else if 65 ≤ n ∧ n ≤ 70 then some (n - 55)
    else none
  value.filter (· < base)

/-- The value of the digits after a part worth `value`; no digit is dropped, no value wrapped. -/
def digitsFrom (base : Nat) : (value : Nat) → List Char → Option Nat
  | value, [] => some value
  | value, c :: cs => (digitValue? base c).bind fun d => digitsFrom base (value * base + d) cs

def natural? (base : Nat) (cs : List Char) : Option Nat :=
  if cs.isEmpty then none else digitsFrom base 0 cs

/-- An optional plus sign and one or more digits, with a value below `limit`. -/
def unsigned? (base limit : Nat) (cs : List Char) : Option Nat :=
  let digits := match cs with
    | '+' :: rest => rest
    | _ => cs
  (natural? base digits).filter (· < limit)

/-- An optional sign and one or more decimal digits, with a value in `[-limit, limit)`. -/
def signed? (limit : Nat) (cs : List Char) : Option Int :=
  match cs with
  | '-' :: rest => ((natural? 10 rest).filter (· ≤ limit)).map fun n => -(n : Int)
  | '+' :: rest => ((natural? 10 rest).filter (· < limit)).map fun n => (n : Int)
  | _ => ((natural? 10 cs).filter (· < limit)).map fun n => (n : Int)

/-- The double nearest to `coefficient * 10 ^ exponent`, for a coefficient of `digits`
significant digits. Exponents are cut where the result is zero or infinite for certain. -/
def nearest (coefficient : Nat) (digits : Nat) (exponent : Int) : Float :=
  let top := (digits : Int) + exponent
  if coefficient = 0 then 0.0
  else if top < -400 then 0.0
  else if 400 < top then 1.0 / 0.0
  else if 0 ≤ exponent then Float.ofScientific coefficient false exponent.toNat
  else Float.ofScientific coefficient true (-exponent).toNat

def spanDigits (cs : List Char) : List Char × List Char :=
  (cs.takeWhile Char.isDigit, cs.dropWhile Char.isDigit)

/-- An exponent after its mark: an optional sign and one or more digits, to the end. -/
def exponent? (cs : List Char) : Option Int :=
  match cs with
  | '-' :: rest => (natural? 10 rest).map fun n => -(n : Int)
  | '+' :: rest => (natural? 10 rest).map fun n => (n : Int)
  | _ => (natural? 10 cs).map fun n => (n : Int)

/-- Digits with an optional point among or beside them and an optional exponent. -/
def fraction? (cs : List Char) : Option Float :=
  let (whole, rest) := spanDigits cs
  let (part, rest) := match rest with
    | '.' :: tail => spanDigits tail
    | _ => ([], rest)
  let digits := whole ++ part
  (natural? 10 digits).bind fun coefficient =>
    let significant := (digits.dropWhile (· = '0')).length
    let finish (e : Int) := some (nearest coefficient significant (e - part.length))
    match rest with
    | [] => finish 0
    | mark :: tail => if mark = 'e' ∨ mark = 'E' then (exponent? tail).bind finish else none

/-- A sign and a magnitude; the words `inf`, `infinity` and `nan` count in any letter case. -/
def float? (cs : List Char) : Option Float :=
  let (negative, body) := match cs with
    | '-' :: rest => (true, rest)
    | '+' :: rest => (false, rest)
    | _ => (false, cs)
  let word := body.map Char.toLower
  let magnitude :=
    if word = ['i', 'n', 'f'] ∨ word = ['i', 'n', 'f', 'i', 'n', 'i', 't', 'y'] then
      some (1.0 / 0.0)
    else if word = ['n', 'a', 'n'] then some (0.0 / 0.0)
    else fraction? body
  magnitude.map fun x => if negative then -x else x

end RequestRouter.Decimal
