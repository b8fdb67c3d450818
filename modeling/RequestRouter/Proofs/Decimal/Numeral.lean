import Mathlib.Data.List.Forall2
import Mathlib.Data.Nat.Digits.Defs
import RequestRouter.Decimal.Reading

/-!
# Numerals

Which texts denote a whole number in a base, and which number that is. Main statements: the reader
of unsigned numbers takes the texts that denote a number below its limit, and gives that number; and
the digits that a number is printed with denote it, whatever characters stand for the single digits.
-/

namespace RequestRouter.Decimal

/-- The character is the digit worth `d`: one of the ten, or a letter from `a` on in either case. -/
def Digit (base : Nat) (c : Char) (d : Nat) : Prop :=
  d < base ∧ (d < 10 ∧ c.toNat = '0'.toNat + d ∨
    10 ≤ d ∧ d < 16 ∧ (c.toNat + 10 = 'a'.toNat + d ∨ c.toNat + 10 = 'A'.toNat + d))

/-- An optional plus sign and one or more digits, of which the last counts once and each one before
it `base` times as much as the next. -/
def Numeral (base : Nat) (cs : List Char) (n : Nat) : Prop :=
  ∃ digits values, digits ≠ [] ∧ (cs = digits ∨ cs = '+' :: digits) ∧
    List.Forall₂ (Digit base) digits values ∧ n = Nat.ofDigits base values.reverse

variable {base : Nat} {cs : List Char} {n : Nat}

theorem digitValue?_eq_some_iff {c : Char} {d : Nat} :
    digitValue? base c = some d ↔ Digit base c d := by
  have zero : '0'.toNat = 48 := rfl
  have lower : 'a'.toNat = 97 := rfl
  have upper : 'A'.toNat = 65 := rfl
  simp only [digitValue?, Digit, Option.filter_eq_some_iff, decide_eq_true_eq, zero, lower, upper]
  split_ifs <;> simp only [Option.some.injEq, false_and, false_iff] <;> omega

/-- A digit stands for the same number in all bases that have it. -/
theorem Digit.of_lt {base' : Nat} {c : Char} {d : Nat} (h : Digit base c d) (small : d < base') :
    Digit base' c d :=
  ⟨small, h.2⟩

theorem not_digit_plus {d : Nat} : ¬ Digit base '+' d := by
  have plus : '+'.toNat = 43 := rfl
  have zero : '0'.toNat = 48 := rfl
  have lower : 'a'.toNat = 97 := rfl
  have upper : 'A'.toNat = 65 := rfl
  simp only [Digit, plus, zero, lower, upper]
  omega

/-- The part before the digits stands in front of them like one more digit. -/
theorem digitsFrom_eq_some_iff {value : Nat} : digitsFrom base value cs = some n ↔
    ∃ values, List.Forall₂ (Digit base) cs values ∧
      n = Nat.ofDigits base (values.reverse ++ [value]) := by
  induction cs generalizing value with
  | nil =>
    simp only [digitsFrom, List.forall₂_nil_left_iff, exists_eq_left, Option.some.injEq]
    simp [eq_comm]
  | cons c cs ih =>
    simp only [digitsFrom, Option.bind_eq_some_iff, digitValue?_eq_some_iff, ih,
      List.forall₂_cons_left_iff]
    have shift (d : Nat) (values : List Nat) :
        Nat.ofDigits base (values.reverse ++ [value * base + d]) =
          Nat.ofDigits base ((d :: values).reverse ++ [value]) := by
      simp only [List.reverse_cons, Nat.ofDigits_append, Nat.ofDigits_singleton,
        List.length_append, List.length_singleton, List.length_reverse]
      ring
    constructor
    · rintro ⟨d, digit, values, digits, rfl⟩
      exact ⟨d :: values, ⟨d, values, digit, digits, rfl⟩, shift d values⟩
    · rintro ⟨_, ⟨d, values, digit, digits, rfl⟩, rfl⟩
      exact ⟨d, digit, values, digits, (shift d values).symm⟩

theorem natural?_eq_some_iff : natural? base cs = some n ↔
    cs ≠ [] ∧ ∃ values, List.Forall₂ (Digit base) cs values ∧
      n = Nat.ofDigits base values.reverse := by
  unfold natural?
  split
  · rename_i empty
    simp [List.isEmpty_iff.1 empty]
  · rename_i some
    rw [List.isEmpty_iff] at some
    simp [digitsFrom_eq_some_iff, Nat.ofDigits_append, some]

theorem unsigned?_eq_some_iff {limit : Nat} :
    unsigned? base limit cs = some n ↔ Numeral base cs n ∧ n < limit := by
  unfold unsigned? Numeral
  rw [Option.filter_eq_some_iff, decide_eq_true_eq, and_congr_left_iff]
  intro _
  split
  · rename_i rest
    rw [natural?_eq_some_iff]
    constructor
    · rintro ⟨some, values, digits, value⟩
      exact ⟨rest, values, some, Or.inr rfl, digits, value⟩
    · rintro ⟨_, values, some, rfl | same, digits, value⟩
      · obtain ⟨d, _, digit, -, -⟩ := List.forall₂_cons_left_iff.1 digits
        exact absurd digit not_digit_plus
      · obtain rfl := (List.cons.inj same).2
        exact ⟨some, values, digits, value⟩
  · rename_i unsigned
    rw [natural?_eq_some_iff]
    constructor
    · rintro ⟨some, values, digits, value⟩
      exact ⟨cs, values, some, Or.inl rfl, digits, value⟩
    · rintro ⟨_, values, some, rfl | same, digits, value⟩
      · exact ⟨some, values, digits, value⟩
      · exact absurd same (unsigned _)

/-- A numeral denotes one number: the one that a reader with a limit beyond it gives. -/
theorem Numeral.unique {m : Nat} (h : Numeral base cs n) (h' : Numeral base cs m) : n = m := by
  have read : unsigned? base (n + m + 1) cs = some n := unsigned?_eq_some_iff.2 ⟨h, by omega⟩
  have read' : unsigned? base (n + m + 1) cs = some m := unsigned?_eq_some_iff.2 ⟨h', by omega⟩
  exact Option.some.inj (read.symm.trans read')

/-- A text with the mark of base sixteen is no numeral in base ten. -/
theorem not_numeral_of_mark {digits : List Char} : ¬ Numeral 10 ('0' :: 'x' :: digits) n := by
  rintro ⟨_, values, -, rfl | same, spelled, -⟩
  · obtain ⟨_, _, -, rest, -⟩ := List.forall₂_cons_left_iff.1 spelled
    obtain ⟨d, _, digit, -, -⟩ := List.forall₂_cons_left_iff.1 rest
    have mark : 'x'.toNat = 120 := rfl
    have zero : '0'.toNat = 48 := rfl
    simp only [Digit, mark, zero] at digit
    omega
  · cases same

section Printing

/-- The digits of a number from the greatest power of the base down, each as a character that
stands for it. -/
theorem exists_forall₂_toDigits (written : Char → Char) (large : 1 < base)
    (digit : ∀ d < base, Digit base (written d.digitChar) d) (n : Nat) :
    ∃ values, List.Forall₂ (Digit base) ((Nat.toDigits base n).map written) values ∧
      n = Nat.ofDigits base values.reverse := by
  induction n using Nat.strong_induction_on with
  | h n ih =>
    by_cases small : n < base
    · refine ⟨[n], ?_, Nat.ofDigits_singleton.symm⟩
      rw [Nat.toDigits_of_lt_base small]
      exact .cons (digit n small) .nil
    · have least : base ≤ n := Nat.not_lt.1 small
      obtain ⟨values, spelled, value⟩ := ih (n / base) (Nat.div_lt_self (by omega) large)
      refine ⟨values ++ [n % base], ?_, ?_⟩
      · rw [Nat.toDigits_of_base_le large least, List.map_append]
        exact List.rel_append spelled (.cons (digit _ (Nat.mod_lt n (by omega))) .nil)
      · rw [List.reverse_append, List.reverse_singleton, List.singleton_append, Nat.ofDigits_cons,
          ← value, Nat.mod_add_div]

/-- A number is printed as a numeral of it. -/
theorem numeral_toDigits (written : Char → Char) (large : 1 < base)
    (digit : ∀ d < base, Digit base (written d.digitChar) d) (n : Nat) :
    Numeral base ((Nat.toDigits base n).map written) n := by
  obtain ⟨values, spelled, value⟩ := exists_forall₂_toDigits written large digit n
  have some : (Nat.toDigits base n).map written ≠ [] := by simp [Nat.toDigits_ne_nil]
  exact ⟨_, values, some, Or.inl rfl, spelled, value⟩

theorem digit_digitChar : ∀ d < 16, Digit 16 d.digitChar d := by
  unfold Digit
  decide

theorem digit_toUpper_digitChar : ∀ d < 16, Digit 16 d.digitChar.toUpper d := by
  unfold Digit
  decide

end Printing

end RequestRouter.Decimal
