/-!
# Shortest decimals

The shortest decimal that a double precision number is read back from. A positive double is
`m * 2 ^ q`; the reals that round to it form an interval around it whose ends belong to it when
`m` is even. On the grids of 1, 2, … 17 digits the two neighbours of the double are tested; the
first grid with a hit wins, of two hits the nearer one, and of two equally near the even one.
-/

namespace RequestRouter.Decimal

/-- The value `coefficient * 10 ^ exponent`. -/
structure Scaled where
  coefficient : Nat
  exponent : Int
deriving Repr, DecidableEq

/-- The value `significand * 2 ^ exponent`. -/
structure Binary where
  significand : Nat
  exponent : Int
deriving Repr, DecidableEq

/-- The magnitude of the finite double with the given bits. -/
def Binary.ofBits (bits : UInt64) : Binary :=
  let fraction : Nat := bits.toNat % 0x10000000000000
  let biased : Nat := bits.toNat / 0x10000000000000 % 0x800
  if biased = 0 then ⟨fraction, -1074⟩ else ⟨0x10000000000000 + fraction, (biased : Int) - 1075⟩

structure Ratio where
  num : Nat
  den : Nat

def Ratio.binary (n : Nat) (e : Int) : Ratio :=
  if 0 ≤ e then ⟨n * Nat.pow 2 e.toNat, 1⟩ else ⟨n, Nat.pow 2 (-e).toNat⟩

def Ratio.decimal (n : Nat) (e : Int) : Ratio :=
  if 0 ≤ e then ⟨n * Nat.pow 10 e.toNat, 1⟩ else ⟨n, Nat.pow 10 (-e).toNat⟩

def Ratio.lt (a b : Ratio) : Bool :=
  a.num * b.den < b.num * a.den

def Ratio.le (a b : Ratio) : Bool :=
  a.num * b.den ≤ b.num * a.den

/-- The reals that round to a double. -/
structure Interval where
  lower : Ratio
  upper : Ratio
  /-- Whether the two ends belong to it. -/
  closed : Bool

/-- Half a unit in the last place on each side; below a power of two the units are half as
large. -/
def Binary.interval (b : Binary) : Interval :=
  let m := b.significand
  let lower :=
    if m = 0x10000000000000 ∧ b.exponent ≠ -1074 then Ratio.binary (4 * m - 1) (b.exponent - 2)
    else Ratio.binary (2 * m - 1) (b.exponent - 1)
  ⟨lower, Ratio.binary (2 * m + 1) (b.exponent - 1), m % 2 = 0⟩

def Interval.contains (i : Interval) (r : Ratio) : Bool :=
  if i.closed then i.lower.le r && r.le i.upper else i.lower.lt r && r.lt i.upper

/-- The number of digits before the point: the least `k` with `value < 10 ^ k`. -/
def Binary.magnitude (b : Binary) : Int :=
  let value := Ratio.binary b.significand b.exponent
  let low := Int.fdiv (((Nat.log2 b.significand : Int) + b.exponent) * 30103) 100000
  if value.lt (Ratio.decimal 1 low) then low
  else if value.lt (Ratio.decimal 1 (low + 1)) then low + 1
  else low + 2

/-- The better of the double's two neighbours on the grid of multiples of `10 ^ e`, if one lies
in its interval. -/
def Binary.onGrid (b : Binary) (e : Int) : Option Scaled :=
  let value := Ratio.binary b.significand b.exponent
  let unit := Ratio.decimal 1 e
  let num := value.num * unit.den
  let den := value.den * unit.num
  let below := num / den
  let excess := num % den
  let fits (d : Nat) := b.interval.contains (Ratio.decimal d e)
  let nearerAbove := if 2 * excess = den then below % 2 = 1 else den < 2 * excess
  if excess ≠ 0 ∧ nearerAbove ∧ fits (below + 1) then some ⟨below + 1, e⟩
  else if fits below then some ⟨below, e⟩
  else if fits (below + 1) then some ⟨below + 1, e⟩
  else none

/-- Moves the zeros at the end of the coefficient into the exponent; `fuel` bounds their
number. -/
def Scaled.strip : (fuel : Nat) → Scaled → Scaled
  | 0, s => s
  | fuel + 1, s =>
    if s.coefficient % 10 = 0 ∧ s.coefficient ≠ 0 then
      strip fuel ⟨s.coefficient / 10, s.exponent + 1⟩
    else s

/-- The shortest decimal that rounds to a positive double. Seventeen digits always suffice. -/
def Binary.shortest (b : Binary) : Scaled :=
  let k := b.magnitude
  let grids := (List.range 17).map fun (n : Nat) => k - (n + 1 : Int)
  ((grids.findSome? b.onGrid).getD ⟨0, 0⟩).strip 20

end RequestRouter.Decimal
