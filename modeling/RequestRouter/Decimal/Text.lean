import RequestRouter.Decimal.Shortest

/-!
# The text of a double

Shortest digits, positional from 1e-5 up to 1e16 and scientific outside. There is always a point
or an exponent, so that the text of a double never reads as an integer.
-/

namespace RequestRouter.Decimal

def digitsOf (n : Nat) : List Char :=
  Nat.toDigits 10 n

/-- The choices that the text of a number leaves open. -/
structure Layout where
  /-- Greatest number of digits before the point in positional text. -/
  widest : Int
  /-- Least such number; negative counts are zeros after the point. -/
  narrowest : Int
  /-- Written after the digits of a positional text without fraction. -/
  wholeMark : List Char
  exponentMark : List Char
  positiveSign : List Char

/-- `0.00001`, `1.0`, `1000000000000000.0`, `1e+16`, `1e-7`. -/
def Layout.json : Layout :=
  ⟨16, -4, ['.', '0'], ['e'], ['+']⟩

/-- The text of `s`, whose coefficient does not end in zero. -/
def Scaled.render (layout : Layout) (s : Scaled) : List Char :=
  let digits := digitsOf s.coefficient
  let point := (digits.length : Int) + s.exponent
  if layout.narrowest ≤ point ∧ point ≤ layout.widest then
    if point ≤ 0 then ['0', '.'] ++ List.replicate (-point).toNat '0' ++ digits
    else
      let whole := digits.take point.toNat
      let fraction := digits.drop point.toNat
      whole ++ List.replicate (point.toNat - digits.length) '0' ++
        (if fraction.isEmpty then layout.wholeMark else '.' :: fraction)
  else
    let lead := digits.take 1
    let fraction := digits.drop 1
    let exponent := point - 1
    lead ++ (if fraction.isEmpty then [] else '.' :: fraction) ++ layout.exponentMark ++
      (if exponent < 0 then ['-'] else layout.positiveSign) ++ digitsOf exponent.natAbs

def render (x : Float) : String :=
  let bits := x.toBits
  let sign := if bits.toNat / 0x8000000000000000 = 1 then ['-'] else []
  let magnitude := Binary.ofBits bits
  let text :=
    if magnitude.significand = 0 then '0' :: Layout.json.wholeMark
    else magnitude.shortest.render Layout.json
  String.ofList (sign ++ text)

end RequestRouter.Decimal
