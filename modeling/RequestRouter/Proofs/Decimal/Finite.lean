import Mathlib.Algebra.Order.Ring.Nat
import RequestRouter.Json.Basic

/-!
# Integers have a nearest double

A double is packed from a sign, a whole number of units and the exponent of the unit. The bounds
below follow a value through rounding, multiplication and packing by the number of its bits and the
greatest exponent of its unit; they are coarse, since no integer of 64 bits comes near the greatest
double. Main statement: the double that is nearest to such an integer is finite.
-/

open Float.Model Float.Model.UnpackedFloat

namespace RequestRouter.Decimal

/-- A finite value with less than `2 ^ bits` units of at most `2 ^ top`. -/
def Within (bits : Nat) (top : Int) : UnpackedFloat → Prop
  | .zero _ => True
  | .finite _ m e _ => m < 2 ^ bits ∧ e ≤ top
  | .infinity _ => False
  | .notANumber => False

instance (bits : Nat) (top : Int) (x : UnpackedFloat) : Decidable (Within bits top x) :=
  match x with
  | .zero _ => isTrue trivial
  | .finite _ m e _ => inferInstanceAs (Decidable (m < 2 ^ bits ∧ e ≤ top))
  | .infinity _ => isFalse id
  | .notANumber => isFalse id

theorem Within.isFinite {bits : Nat} {top : Int} {x : UnpackedFloat} (h : Within bits top x) :
    x.isFinite = true := by
  cases x with
  | zero _ | finite _ _ _ _ => rfl
  | infinity _ | notANumber => exact h.elim

theorem Within.neg {bits : Nat} {top : Int} {x : UnpackedFloat} (h : Within bits top x) :
    Within bits top x.neg := by
  cases x with
  | zero _ | finite _ _ _ _ => exact h
  | infinity _ | notANumber => exact h.elim

theorem Within.mono {bits : Nat} {top top' : Int} {x : UnpackedFloat} (h : Within bits top x)
    (le : top ≤ top') : Within bits top' x := by
  cases x with
  | zero _ => trivial
  | finite _ _ _ _ => exact ⟨h.1, Int.le_trans h.2 le⟩
  | infinity _ | notANumber => exact h.elim

theorem mantissaBits_binary64 : Format.mantissaBits .binary64 = 53 :=
  rfl

theorem storedMantissaBits_binary64 : Format.mantissaBitsWithoutImplicit .binary64 = 52 :=
  rfl

theorem exponentBias_binary64 : Format.exponentBias .binary64 = 1023 :=
  rfl

theorem log2_lt {m bits : Nat} (small : m < 2 ^ bits) (positive : 0 < bits) : m.log2 < bits := by
  by_cases nothing : m = 0
  · simp [nothing, positive]
  · exact (Nat.log2_lt nothing).2 small

theorem mantissa_shift_le (em : ExtendedMantissa) (n : Nat) :
    (em >>> n).mantissa ≤ em.mantissa := by
  induction n with
  | zero => exact Nat.le_refl _
  | succ n ih =>
    have halved : (em >>> (n + 1)).mantissa = (em >>> n).mantissa / 2 := rfl
    rw [halved]
    exact Nat.le_trans (Nat.div_le_self _ 2) ih

theorem roundedMantissa_le (em : ExtendedMantissa) : em.roundedMantissa ≤ em.mantissa + 1 := by
  obtain ⟨m, roundBit, stickyBit⟩ := em
  have odd := Nat.mod_lt m (show 0 < 2 by decide)
  cases roundBit <;> cases stickyBit <;>
    simp [ExtendedMantissa.roundedMantissa, ExtendedMantissa.accuracy,
      Accuracy.roundToNearestEven]
  omega

theorem shiftToTargetExponent_le {bits m : Nat} {e top : Int} (positive : 0 < bits)
    (high : -1074 ≤ top) (small : m < 2 ^ bits) (low : e ≤ top) :
    (shiftToTargetExponent .binary64 m e .exact).1.mantissa ≤ m ∧
      (shiftToTargetExponent .binary64 m e .exact).2 ≤ top + bits := by
  have digits := log2_lt small positive
  constructor
  · exact mantissa_shift_le _ _
  · simp only [shiftToTargetExponent, shiftToExponent, Format.targetExponent, totalExponent,
      Format.minExponent, mantissaBits_binary64]
    omega

theorem within_roundWithAccuracy {bits m : Nat} {e top : Int} (sign : Sign) (positive : 0 < bits)
    (high : -1074 ≤ top) (small : m < 2 ^ bits) (low : e ≤ top) :
    Within (bits + 1) (top + 2 * bits + 1) (roundWithAccuracy .binary64 sign m e .exact) := by
  obtain ⟨less, moved⟩ := shiftToTargetExponent_le positive high small low
  have rounded := roundedMantissa_le (shiftToTargetExponent .binary64 m e .exact).1
  have small' :
      (shiftToTargetExponent .binary64 m e .exact).1.roundedMantissa < 2 ^ (bits + 1) := by
    rw [Nat.pow_succ]
    omega
  obtain ⟨less', moved'⟩ :=
    shiftToTargetExponent_le (Nat.succ_pos bits) (by omega) small' moved
  -- What counts as zero is the mantissa after rounding and a second shift.
  by_cases nothing : (shiftToTargetExponent .binary64
      (shiftToTargetExponent .binary64 m e .exact).1.roundedMantissa
      (shiftToTargetExponent .binary64 m e .exact).2 .exact).1.mantissa = 0
  · have zero : roundWithAccuracy .binary64 sign m e .exact = _ := dif_pos nothing
    rw [zero]
    trivial
  · have finite : roundWithAccuracy .binary64 sign m e .exact = _ := dif_neg nothing
    rw [finite]
    refine ⟨Nat.lt_of_le_of_lt less' small', Int.le_trans moved' ?_⟩
    push_cast
    omega

theorem within_round {bits m : Nat} {e top : Int} (sign : Sign) (high : -1074 ≤ top)
    (small : m < 2 ^ bits) (low : e ≤ top) :
    Within (bits + 53) (top + 2 * (bits + 52 : Nat) + 1) (round .binary64 sign m e) := by
  have shift : (e - Format.targetExponent .binary64 (totalExponent m e)).toNat ≤ 52 := by
    simp only [Format.targetExponent, totalExponent, Format.minExponent, mantissaBits_binary64]
    omega
  have wide : m <<< (e - Format.targetExponent .binary64 (totalExponent m e)).toNat <
      2 ^ (bits + 52) := by
    rw [Nat.shiftLeft_eq, Nat.pow_add]
    exact Nat.mul_lt_mul_of_lt_of_le small (Nat.pow_le_pow_right (by decide) shift)
      (Nat.two_pow_pos 52)
  exact within_roundWithAccuracy sign (by omega) high wide (by omega)

theorem within_unpack {b : BitVec (Format.numBits .binary64)} {top : Int} (high : -1074 ≤ top)
    (low : ((unpackExponent b).toNat : Int) ≤ top + 1075) (regular : unpackExponent b ≠ -1#_) :
    Within 53 top (unpack .binary64 b) := by
  have mantissa : (unpackMantissa b).toNat < 2 ^ 52 := (unpackMantissa b).isLt
  have finite : unpack .binary64 b = _ := if_neg regular
  by_cases subnormal : unpackExponent b = 0#_
  · have few := finite.trans (if_pos subnormal)
    by_cases nothing : unpackMantissa b = 0#_
    · rw [few.trans (dif_pos nothing)]
      trivial
    · rw [few.trans (dif_neg nothing)]
      refine ⟨by omega, ?_⟩
      rw [subnormal, exponentBias_binary64]
      simpa using high
  · rw [finite.trans (if_neg subnormal)]
    refine ⟨(1#1 ++ unpackMantissa b).isLt, ?_⟩
    rw [exponentBias_binary64, storedMantissaBits_binary64]
    omega

theorem within_unpack_packComponents {biased : Nat} {top : Int} (sign : Sign)
    (mantissa : BitVec (Format.mantissaBitsWithoutImplicit .binary64)) (high : -1074 ≤ top)
    (fits : biased < 2047) (low : (biased : Int) ≤ top + 1075) :
    Within 53 top (unpack .binary64
      (packComponents .binary64 sign (BitVec.ofNat 11 biased) mantissa)) := by
  have field : (BitVec.ofNat 11 biased).toNat = biased := by
    rw [BitVec.toNat_ofNat]
    exact Nat.mod_eq_of_lt (by omega)
  refine within_unpack high ?_ ?_
  · rw [unpackExponent_packComponents, field]
    exact low
  · rw [unpackExponent_packComponents]
    intro ones
    have all := congrArg BitVec.toNat ones
    rw [field] at all
    have last : (-1#(Format.binary64.exponentBits)).toNat = 2047 := rfl
    omega

theorem within_unpack_pack {bits : Nat} {top : Int} {x : UnpackedFloat} (h : Within bits top x)
    (high : -1074 ≤ top) (low : top ≤ 971) :
    Within 53 top (unpack .binary64 (pack .binary64 x)) := by
  have subnormal : ((0 : Nat) : Int) ≤ top + 1075 := by
    push_cast
    omega
  cases x with
  | infinity _ | notANumber => exact h.elim
  | zero sign => exact within_unpack_packComponents sign 0 high (by decide) subnormal
  | finite sign m e nonzero =>
    obtain ⟨-, below⟩ := h
    have bias := exponentBias_binary64
    have width := storedMantissaBits_binary64
    have regular : ¬ 2 ^ 11 ≤ (e + (1023 : Nat) + (52 : Nat)).toNat + 1 := by omega
    have packed : pack .binary64 (.finite sign m e nonzero) = _ := if_neg regular
    rw [packed]
    split
    · exact within_unpack_packComponents sign _ high (by omega) (by omega)
    · exact within_unpack_packComponents sign _ high (by decide) subnormal

/-- A product with less than `2 ^ bits` units is rounded to a value far from overflow. -/
theorem within_mul {x y : UnpackedFloat} {bits bits' : Nat} {top top' : Int}
    (hx : Within bits top x) (hy : Within bits' top' y) (positive : 0 < bits + bits')
    (high : -1074 ≤ top + top') :
    Within (bits + bits' + 1) (top + top' + 2 * (bits + bits' : Nat) + 1)
      (UnpackedFloat.mul .binary64 x y) := by
  cases x with
  | infinity _ | notANumber => exact hx.elim
  | zero _ =>
    cases y with
    | infinity _ | notANumber => exact hy.elim
    | zero _ | finite _ _ _ _ => trivial
  | finite sign m e _ =>
    cases y with
    | infinity _ | notANumber => exact hy.elim
    | zero _ => trivial
    | finite sign' m' e' nonzero' =>
      have small : m * m' < 2 ^ (bits + bits') := by
        rw [Nat.pow_add]
        exact Nat.mul_lt_mul_of_lt_of_le hx.1 (Nat.le_of_lt hy.1) (Nat.two_pow_pos bits')
      have low : e + e' ≤ top + top' := Int.add_le_add hx.2 hy.2
      exact within_roundWithAccuracy (sign * sign') positive high small low

theorem within_unpacked_ofNat {n bits : Nat} (small : n < 2 ^ bits) :
    Within (bits + 53) (0 + 2 * (bits + 52 : Nat) + 1) (UnpackedFloat.ofNat .binary64 n) := by
  simp only [UnpackedFloat.ofNat, UnpackedFloat.ofInt, UnpackedFloat.normalize]
  split
  · rename_i negative
    rw [Int.compare_eq_lt] at negative
    omega
  · trivial
  · exact within_round .positive (by decide) (by simpa using small) (Int.le_refl 0)

theorem within_unpacked_ofScientific {n : Nat} (small : n < 2 ^ 64) :
    Within (117 + 4 + 1) (0 + 0 + 2 * (117 + 4 : Nat) + 1)
      (UnpackedFloat.ofScientific .binary64 n 0) := by
  have wide : n <<< Format.mantissaBits .binary64 < 2 ^ 117 := by
    rw [Nat.shiftLeft_eq, mantissaBits_binary64]
    omega
  by_cases nothing : n = 0
  · rw [UnpackedFloat.ofScientific, dif_pos nothing]
    trivial
  · have huge : ¬ (0 : Int) > 2 ^ Format.exponentBits .binary64 := by decide
    have tiny : ¬ (0 : Int) < -(2 ^ Format.exponentBits .binary64 + n.log2) := by omega
    rw [UnpackedFloat.ofScientific, dif_neg nothing, if_neg huge, if_neg tiny,
      if_pos (Int.le_refl 0)]
    refine @within_mul _ _ 117 4 0 0 ?_ ?_ ?_ ?_
    · exact And.intro wide (by decide)
    · exact And.intro (by decide) (by decide)
    · decide
    · decide

/-- Whole numbers of 64 bits are far from overflow. -/
theorem within_ofNat {n : Nat} (small : n < 2 ^ 64) :
    Within 53 500 (Float.ofNat n).toModel.unpack := by
  by_cases exact : n < 2 ^ 53
  · have own : n.toUInt64.toNat = n := by
      rw [Nat.toUInt64_eq, UInt64.toNat_ofNat']
      omega
    have whole : Within 106 211 (UnpackedFloat.ofNat .binary64 n.toUInt64.toNat) := by
      rw [own]
      exact within_unpacked_ofNat exact
    have one : Within 53 0 (Float.exactlyRepresentablePowersOfTen[0]).toModel.unpack := by
      decide +kernel
    have scaled : Float.ofNat n =
        n.toUInt64.toFloat * Float.exactlyRepresentablePowersOfTen[0] := by
      show Float.ofScientific n false 0 = _
      rw [Float.ofScientific, dif_pos ⟨exact, by decide⟩]
      rfl
    have converted := within_unpack_pack whole (by decide) (by decide)
    have product := within_mul converted one (by decide) (by decide)
    rw [scaled]
    exact (within_unpack_pack product (by decide) (by decide)).mono (by decide)
  · have general : Float.ofNat n = Float.ofModel (Float.Model.ofScientific n 0) := by
      show Float.ofScientific n false 0 = _
      rw [Float.ofScientific, dif_neg (fun both => exact both.1)]
      rfl
    have product := within_unpacked_ofScientific small
    rw [general]
    exact (within_unpack_pack product (by decide) (by decide)).mono (by decide)

/-- Every integer of 64 bits, signed or not, is near a finite double. -/
theorem isFinite_ofInt {n : Int} (lower : -0x8000000000000000 ≤ n)
    (upper : n < 0x10000000000000000) : (Float.ofInt n).isFinite = true := by
  cases n with
  | ofNat n =>
    have small : n < 2 ^ 64 := by
      rw [Int.ofNat_eq_natCast] at upper
      omega
    exact (within_ofNat small).isFinite
  | negSucc n =>
    have small : n.succ < 2 ^ 64 := by
      rw [Int.negSucc_eq] at lower
      omega
    have near := within_ofNat small
    have mirrored := within_unpack_pack near.neg (by decide) (by decide)
    exact mirrored.isFinite

end RequestRouter.Decimal
