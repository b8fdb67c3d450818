import Mathlib.Tactic.SplitIfs
import RequestRouter.Decimal.Reading
import RequestRouter.Json.Printer
import RequestRouter.Proofs.Text.Parts

/-!
# Signed numerals

A signed numeral is a sign, which can be left out, and one or more of the ten digits. The reader of
signed numbers takes the numerals of the numbers within its limit: one more of them is below zero
than above. What it gives is the number that the numeral denotes, of which there is one. Printing a
number gives one of its numerals.
-/

namespace RequestRouter.Decimal

/-- One or more of the ten digits, with zeros in front or without. -/
structure Digits (cs : List Char) : Prop where
  nonempty : cs ≠ []
  digits : ∀ c ∈ cs, c.isDigit = true

inductive Denotes : List Char → Int → Prop
  | plain {cs : List Char} (h : Digits cs) : Denotes cs (Nat.ofDigitChars 10 cs 0)
  | plus {cs : List Char} (h : Digits cs) : Denotes ('+' :: cs) (Nat.ofDigitChars 10 cs 0)
  | minus {cs : List Char} (h : Digits cs) : Denotes ('-' :: cs) (-(Nat.ofDigitChars 10 cs 0))

variable {cs : List Char}

theorem digitValue?_ten_eq_some_iff {c : Char} {d : Nat} :
    digitValue? 10 c = some d ↔ c.isDigit = true ∧ d = c.toNat - '0'.toNat := by
  have zero : '0'.toNat = 48 := rfl
  have nine : '9'.toNat = 57 := rfl
  rw [digitValue?, Option.filter_eq_some_iff, Char.isDigit_iff_toNat, zero, nine]
  simp only [decide_eq_true_eq]
  split_ifs <;> simp only [Option.some.injEq, false_and, false_iff] <;> omega

theorem digitsFrom_ten_eq_some_iff {value n : Nat} : digitsFrom 10 value cs = some n ↔
    (∀ c ∈ cs, c.isDigit = true) ∧ n = Nat.ofDigitChars 10 cs value := by
  induction cs generalizing value with
  | nil =>
    rw [digitsFrom, Option.some.injEq, Nat.ofDigitChars_nil, eq_comm]
    exact (and_iff_right (List.forall_mem_nil _)).symm
  | cons c cs ih =>
    rw [digitsFrom, Option.bind_eq_some_iff, List.forall_mem_cons, Nat.ofDigitChars_cons,
      Nat.mul_comm 10 value]
    simp only [digitValue?_ten_eq_some_iff, ih]
    constructor
    · rintro ⟨_, ⟨digit, rfl⟩, digits, rfl⟩
      exact ⟨⟨digit, digits⟩, rfl⟩
    · rintro ⟨⟨digit, digits⟩, rfl⟩
      exact ⟨_, ⟨digit, rfl⟩, digits, rfl⟩

theorem natural?_ten_eq_some_iff {n : Nat} :
    natural? 10 cs = some n ↔ Digits cs ∧ n = Nat.ofDigitChars 10 cs 0 := by
  unfold natural?
  split
  · rename_i empty
    have nothing : ¬ Digits cs := fun h => h.nonempty (List.isEmpty_iff.1 empty)
    simp [nothing]
  · rename_i nonempty
    rw [List.isEmpty_iff] at nonempty
    rw [digitsFrom_ten_eq_some_iff]
    exact and_congr_left fun _ => ⟨fun digits => ⟨nonempty, digits⟩, Digits.digits⟩

/-- A sign is no digit. -/
theorem not_digits_cons {c : Char} (sign : c.isDigit = false) : ¬ Digits (c :: cs) := by
  intro h
  have digit := h.digits c List.mem_cons_self
  rw [sign] at digit
  cases digit

/-- Digits whose value is bounded, before the sign is put to them. -/
theorem map_filter_natural?_eq_some_iff {p : Nat → Bool} {sign : Int → Int} {n : Int} :
    (do let m ← (natural? 10 cs).filter p; return (m : Int) : Option Int).map sign = some n ↔
      Digits cs ∧ p (Nat.ofDigitChars 10 cs 0) = true ∧ sign (Nat.ofDigitChars 10 cs 0) = n := by
  simp only [Option.map_eq_some_iff, Option.bind_eq_bind, Option.bind_eq_some_iff,
    Option.filter_eq_some_iff, natural?_ten_eq_some_iff, Option.pure_def, Option.some.injEq]
  constructor
  · rintro ⟨_, ⟨_, ⟨⟨digits, rfl⟩, bounded⟩, rfl⟩, signed⟩
    exact ⟨digits, bounded, signed⟩
  · rintro ⟨digits, bounded, signed⟩
    exact ⟨_, ⟨_, ⟨⟨digits, rfl⟩, bounded⟩, rfl⟩, signed⟩

section Signs

variable {n : Int}

theorem denotes_minus_iff :
    Denotes ('-' :: cs) n ↔ Digits cs ∧ -(Nat.ofDigitChars 10 cs 0 : Int) = n := by
  constructor
  · intro h
    cases h with
    | plain digits => exact absurd digits (not_digits_cons rfl)
    | minus digits => exact ⟨digits, rfl⟩
  · rintro ⟨digits, rfl⟩
    exact .minus digits

theorem denotes_plus_iff :
    Denotes ('+' :: cs) n ↔ Digits cs ∧ (Nat.ofDigitChars 10 cs 0 : Int) = n := by
  constructor
  · intro h
    cases h with
    | plain digits => exact absurd digits (not_digits_cons rfl)
    | plus digits => exact ⟨digits, rfl⟩
  · rintro ⟨digits, rfl⟩
    exact .plus digits

theorem denotes_iff_of_unsigned (notMinus : ∀ rest, cs ≠ '-' :: rest)
    (notPlus : ∀ rest, cs ≠ '+' :: rest) :
    Denotes cs n ↔ Digits cs ∧ (Nat.ofDigitChars 10 cs 0 : Int) = n := by
  constructor
  · intro h
    cases h with
    | plain digits => exact ⟨digits, rfl⟩
    | plus digits => exact absurd rfl (notPlus _)
    | minus digits => exact absurd rfl (notMinus _)
  · rintro ⟨digits, rfl⟩
    exact .plain digits

end Signs

theorem signed?_eq_some_iff {limit : Nat} {n : Int} : signed? (limit + 1) cs = some n ↔
    Denotes cs n ∧ -(limit + 1 : Int) ≤ n ∧ n ≤ limit := by
  unfold signed?
  split
  · rw [map_filter_natural?_eq_some_iff, decide_eq_true_eq, denotes_minus_iff, and_assoc]
    refine and_congr_right fun _ => ?_
    omega
  · rw [map_filter_natural?_eq_some_iff, decide_eq_true_eq, denotes_plus_iff, and_assoc]
    refine and_congr_right fun _ => ?_
    omega
  · rename_i notMinus notPlus
    rw [map_filter_natural?_eq_some_iff, decide_eq_true_eq,
      denotes_iff_of_unsigned notMinus notPlus, and_assoc]
    refine and_congr_right fun _ => ?_
    omega

/-- A numeral denotes one number: the one that a reader with bounds beyond it gives. -/
theorem Denotes.unique {n m : Int} (h : Denotes cs n) (h' : Denotes cs m) : n = m := by
  have read : signed? (n.natAbs + m.natAbs + 1) cs = some n :=
    signed?_eq_some_iff.2 ⟨h, by omega, by omega⟩
  have read' : signed? (n.natAbs + m.natAbs + 1) cs = some m :=
    signed?_eq_some_iff.2 ⟨h', by omega, by omega⟩
  exact Option.some.inj (read.symm.trans read')

theorem digits_digitsOf (n : Nat) : Digits (digitsOf n) :=
  ⟨Nat.toDigits_ne_nil, fun _ member => Nat.isDigit_of_mem_toDigits (by decide) (by decide) member⟩

theorem denotes_integerDigits (n : Int) : Denotes (integerDigits n) n := by
  have value : Nat.ofDigitChars 10 (digitsOf n.natAbs) 0 = n.natAbs := Nat.ofDigitChars_ten_toDigits
  have digits := digits_digitsOf n.natAbs
  unfold integerDigits
  split
  · have negative : -(n.natAbs : Int) = n := by omega
    have written := Denotes.minus digits
    rwa [value, negative] at written
  · have positive : (n.natAbs : Int) = n := by omega
    have written := Denotes.plain digits
    rwa [value, positive] at written

theorem isBlank_of_isDigit {c : Char} (digit : c.isDigit = true) : isBlank c = false := by
  have zero : '0'.toNat = 48 := rfl
  have nine : '9'.toNat = 57 := rfl
  rw [Char.isDigit_iff_toNat, zero, nine] at digit
  exact isBlank_of_visible (by omega) (by omega)

theorem Denotes.isBlank_eq_false {n : Int} (h : Denotes cs n) : ∀ c ∈ cs, isBlank c = false := by
  cases h with
  | plain h => exact fun c member => isBlank_of_isDigit (h.digits c member)
  | plus h | minus h =>
    exact List.forall_mem_cons.2 ⟨rfl, fun c member => isBlank_of_isDigit (h.digits c member)⟩

/-- The text is a numeral of the number, with blanks around it or without. -/
inductive Spells (s : String) (n : Int) : Prop
  | intro (before numeral after : List Char) (split : s.toList = before ++ numeral ++ after)
    (front : ∀ c ∈ before, isBlank c = true) (back : ∀ c ∈ after, isBlank c = true)
    (denotes : Denotes numeral n)

/-- Trimming finds the numeral. -/
theorem spells_iff {s : String} {n : Int} : Spells s n ↔ Denotes (trimChars s.toList) n := by
  constructor
  · rintro ⟨before, numeral, after, split, front, back, denotes⟩
    have found : trimChars s.toList = numeral :=
      (trimBy_eq_iff denotes.isBlank_eq_false).2 ⟨before, after, split, front, back⟩
    rwa [found]
  · intro denotes
    obtain ⟨before, after, split, front, back⟩ := exists_eq_trimBy isBlank s.toList
    exact ⟨before, _, after, split, front, back, denotes⟩

theorem Spells.unique {s : String} {n m : Int} (h : Spells s n) (h' : Spells s m) : n = m :=
  (spells_iff.1 h).unique (spells_iff.1 h')

end RequestRouter.Decimal
