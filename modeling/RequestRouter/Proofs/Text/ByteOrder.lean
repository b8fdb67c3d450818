import Mathlib.Tactic.SplitIfs
import RequestRouter.Text.Utf8

/-!
# The order of bytes

Texts are compared character by character. UTF-8 keeps that order: the bytes of two texts, compared
from the front, stand as the texts do. So it makes no difference whether names are sorted as texts
or as bytes. UTF-16 lacks this property, since its surrogates stand below the last characters of
the basic plane.
-/

namespace RequestRouter.Utf8

theorem encode_eq (s : String) : encode s = s.toList.flatMap String.utf8EncodeChar := by
  rw [encode, ← String.utf8Encode_toList, List.utf8Encode, List.data_toByteArray]

theorem ofNat_lt_iff {m n : Nat} : UInt8.ofNat m < UInt8.ofNat n ↔ m % 256 < n % 256 := by
  rw [UInt8.lt_iff_toNat_lt, UInt8.toNat_ofNat', UInt8.toNat_ofNat']

theorem ofNat_eq_iff {m n : Nat} : UInt8.ofNat m = UInt8.ofNat n ↔ m % 256 = n % 256 := by
  rw [← UInt8.toNat_inj, UInt8.toNat_ofNat', UInt8.toNat_ofNat']

theorem val_lt (c : Char) : c.val.toNat < 0x110000 := by
  rcases c.valid with basic | above
  · exact Nat.lt_trans basic (by decide)
  · exact above.2

/-- The bytes of a lesser character are less at the first place where they differ, whatever
follows the characters. -/
theorem encodeChar_append_lt {c d : Char} (less : c < d) (as bs : List UInt8) :
    String.utf8EncodeChar c ++ as < String.utf8EncodeChar d ++ bs := by
  have smaller : c.val.toNat < d.val.toNat := less
  have bound := val_lt d
  unfold String.utf8EncodeChar
  dsimp only
  generalize c.val.toNat = m at smaller ⊢
  generalize d.val.toNat = n at smaller bound ⊢
  -- the shifts by 12 and by 18 bits, so that all digits are taken from one another
  have twelve (k : Nat) : k / 4096 = k / 64 / 64 := (Nat.div_div_eq_div_mul k 64 64).symm
  have eighteen (k : Nat) : k / 262144 = k / 64 / 64 / 64 := by omega
  simp only [twelve, eighteen]
  -- a case for each pair of byte counts; a longer sequence has the greater first byte
  split_ifs
  all_goals
    simp only [List.cons_append, List.nil_append, List.cons_lt_cons_iff, ofNat_lt_iff,
      ofNat_eq_iff]
    omega

theorem flatMap_encodeChar_lt {cs ds : List Char} (less : cs < ds) :
    cs.flatMap String.utf8EncodeChar < ds.flatMap String.utf8EncodeChar := by
  induction cs generalizing ds with
  | nil =>
    cases ds with
    | nil => exact absurd less (List.lt_irrefl [])
    | cons d ds =>
      obtain ⟨b, bs, made⟩ := List.exists_cons_of_ne_nil (String.utf8EncodeChar_ne_nil (c := d))
      rw [List.flatMap_cons, made]
      exact List.nil_lt_cons b (bs ++ ds.flatMap String.utf8EncodeChar)
  | cons c cs ih =>
    cases ds with
    | nil => exact absurd less (List.not_lt_nil _)
    | cons d ds =>
      rw [List.flatMap_cons, List.flatMap_cons]
      rcases List.cons_lt_cons_iff.1 less with first | ⟨rfl, rest⟩
      · exact encodeChar_append_lt first _ _
      · exact List.append_left_lt (ih rest)

theorem encode_lt {s t : String} (less : s < t) : encode s < encode t := by
  rw [encode_eq, encode_eq]
  exact flatMap_encodeChar_lt less

/-- Texts stand in the order of their bytes. -/
theorem encode_lt_iff {s t : String} : encode s < encode t ↔ s < t := by
  constructor
  · intro less
    refine Decidable.byContradiction fun notLess => ?_
    -- the bytes of a greater text are greater, those of an equal one are equal
    by_cases greater : t < s
    · exact List.lt_asymm less (encode_lt greater)
    · have same : s = t := String.le_antisymm (String.not_lt.1 greater) (String.not_lt.1 notLess)
      exact List.lt_irrefl _ (same ▸ less)
  · exact encode_lt

/-- The last character of the basic plane stands before an emoji, as do their bytes. -/
example : "\uFFFD" < "😀" ∧ encode "\uFFFD" < encode "😀" := by decide

end RequestRouter.Utf8
