import RequestRouter.Decimal.Reading

/-!
# TOML values

Values, and the reading of the words that stand for numbers, truth values and times.
-/

namespace RequestRouter

/-- A TOML value. Numbers with a fraction and times are told apart from the others; what they
denote is not kept. -/
inductive Toml where
  | string (s : String)
  | integer (n : Int)
  | fraction
  | boolean (b : Bool)
  | time
  | array (items : List Toml)
  | table (members : List (String × Toml))

namespace Toml

/-! ## Digits with underscores between them -/

/-- The digits of a run in which each underscore stands between two digits. -/
def plainDigits (isDigit : Char → Bool) : List Char → Option (List Char)
  | [] => none
  | [c] => if isDigit c then some [c] else none
  | c :: d :: rest =>
    if !isDigit c then none
    else if d = '_' then (plainDigits isDigit rest).map (c :: ·)
    else (plainDigits isDigit (d :: rest)).map (c :: ·)

def noLeadingZero : List Char → Bool
  | '0' :: _ :: _ => false
  | _ => true

def cutSign : List Char → Bool × List Char
  | '-' :: rest => (true, rest)
  | '+' :: rest => (false, rest)
  | cs => (false, cs)

/-- Integers are read in 128 bits. -/
def integerInRange (n : Int) : Option Toml :=
  if -0x80000000000000000000000000000000 ≤ n ∧ n < 0x100000000000000000000000000000000 then
    some (.integer n)
  else none

def decimal? (word : List Char) : Option Toml :=
  let (negative, digits) := cutSign word
  (plainDigits Char.isDigit digits).bind fun ds =>
    if !noLeadingZero ds then none
    else (Decimal.natural? 10 ds).bind fun n => integerInRange (if negative then -n else n)

/-- A hexadecimal, octal or binary integer. -/
def radix? : List Char → Option Toml
  | '0' :: 'x' :: digits => inBase 16 digits
  | '0' :: 'o' :: digits => inBase 8 digits
  | '0' :: 'b' :: digits => inBase 2 digits
  | _ => none
where
  inBase (base : Nat) (digits : List Char) : Option Toml :=
    (plainDigits (fun c => (Decimal.digitValue? base c).isSome) digits).bind fun ds =>
      (Decimal.natural? base ds).bind fun n => integerInRange n

def isExponent (cs : List Char) : Bool :=
  (plainDigits Char.isDigit (cutSign cs).2).isSome

/-- A number with a fraction or an exponent, as it is written. -/
def isNumber (body : List Char) : Bool :=
  let isNumeral (c : Char) := c.isDigit || c == '_'
  let whole := body.takeWhile isNumeral
  let wholeFits := match plainDigits Char.isDigit whole with
    | some ds => noLeadingZero ds
    | none => false
  wholeFits && match body.drop whole.length with
    | '.' :: rest =>
      let places := rest.takeWhile isNumeral
      (plainDigits Char.isDigit places).isSome && match rest.drop places.length with
        | [] => true
        | c :: tail => (c == 'e' || c == 'E') && isExponent tail
    | c :: tail => (c == 'e' || c == 'E') && isExponent tail
    | [] => false

/-- Whether the number rounds to a double that is not infinite. -/
def isFinite (body : List Char) : Bool :=
  (Decimal.fraction? (body.filter (· ≠ '_'))).any Float.isFinite

/-- A number with a fraction or an exponent, or one of the words `inf` and `nan`. -/
def isFraction (word : List Char) : Bool :=
  let body := (cutSign word).2
  body = ['i', 'n', 'f'] || body = ['n', 'a', 'n'] || isNumber body && isFinite body

/-! ## Times -/

/-- A number of exactly `width` digits between the bounds, and what follows it. -/
def fixedNumber (width lower upper : Nat) (cs : List Char) : Option (Nat × List Char) :=
  let digits := cs.take width
  if digits.length = width ∧ digits.all Char.isDigit then
    match Decimal.natural? 10 digits with
    | some n => if lower ≤ n ∧ n ≤ upper then some (n, cs.drop width) else none
    | none => none
  else none

def expectChar (c : Char) : List Char → Option (List Char)
  | d :: rest => if c = d then some rest else none
  | [] => none

def isLeapYear (year : Nat) : Bool :=
  year % 4 == 0 && (year % 100 != 0 || year % 400 == 0)

def daysIn (year month : Nat) : Nat :=
  if month = 2 then if isLeapYear year then 29 else 28
  else if month = 4 ∨ month = 6 ∨ month = 9 ∨ month = 11 then 30
  else 31

def date (cs : List Char) : Option (List Char) := do
  let (year, cs) ← fixedNumber 4 0 9999 cs
  let (month, cs) ← fixedNumber 2 1 12 (← expectChar '-' cs)
  let (_, cs) ← fixedNumber 2 1 (daysIn year month) (← expectChar '-' cs)
  some cs

/-- Hour and minute, then perhaps the second and its fraction. -/
def clock (cs : List Char) : Option (List Char) := do
  let (_, cs) ← fixedNumber 2 0 23 cs
  let (_, cs) ← fixedNumber 2 0 59 (← expectChar ':' cs)
  match cs with
  | ':' :: rest =>
    let (_, rest) ← fixedNumber 2 0 60 rest
    match rest with
    | '.' :: c :: tail => if c.isDigit then some (tail.dropWhile Char.isDigit) else none
    | _ => some rest
  | _ => some cs

def offset (cs : List Char) : Option (List Char) :=
  match cs with
  | 'Z' :: rest => some rest
  | 'z' :: rest => some rest
  | '+' :: rest => hours rest
  | '-' :: rest => hours rest
  | _ => some cs
where
  hours (cs : List Char) : Option (List Char) := do
    let (_, cs) ← fixedNumber 2 0 23 cs
    let (_, cs) ← fixedNumber 2 0 59 (← expectChar ':' cs)
    some cs

/-- A date, a time of day, or both with an offset. -/
def isTime (word : List Char) : Bool :=
  match date word with
  | some [] => true
  | some (c :: rest) =>
    (c == 'T' || c == 't' || c == ' ') && ((clock rest).bind offset) == some []
  | none => clock word == some []

def ofWord (word : List Char) : Option Toml :=
  if word = ['t', 'r', 'u', 'e'] then some (.boolean true)
  else if word = ['f', 'a', 'l', 's', 'e'] then some (.boolean false)
  else match radix? word with
    | some v => some v
    | none =>
      match decimal? word with
      | some v => some v
      | none =>
        if isFraction word then some .fraction else if isTime word then some .time else none

end Toml

end RequestRouter
