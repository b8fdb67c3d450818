import RequestRouter.Proofs.Settings.Override
import RequestRouter.Proofs.Text.Parts

/-!
# Sizes as text

A size is a numeral in base ten, or one in base sixteen after `0x`, with blanks around it or not. It
may have a plus sign, zeros in front and letters of either case. The reader works on the exact
number, however many digits there are, and only then looks at the bound.

Main statement: the reader takes the texts of the numbers of 64 bits, each as the number it stands
for, and refuses those of greater numbers, which so leave the limit on bodies as it was.
-/

namespace RequestRouter

theorem Decimal.Digit.isBlank_eq_false {base d : Nat} {c : Char} (h : Digit base c d) :
    isBlank c = false := by
  have zero : '0'.toNat = 48 := rfl
  have lower : 'a'.toNat = 97 := rfl
  have upper : 'A'.toNat = 65 := rfl
  obtain ⟨-, ⟨small, digit⟩ | ⟨least, most, letter⟩⟩ := h
  · exact isBlank_of_visible (by omega) (by omega)
  · exact isBlank_of_visible (by omega) (by omega)

theorem Decimal.Numeral.isBlank_eq_false {base n : Nat} {cs : List Char} (h : Numeral base cs n) :
    ∀ c ∈ cs, isBlank c = false := by
  obtain ⟨digits, values, -, written, spelled, -⟩ := h
  have visible : ∀ c ∈ digits, isBlank c = false :=
    ((List.forall₂_and_left digits values).1
      (spelled.imp fun _ _ digit => ⟨digit.isBlank_eq_false, digit⟩)).1
  rcases written with rfl | rfl
  · exact visible
  · exact List.forall_mem_cons.2 ⟨rfl, visible⟩

/-- A numeral in base ten, or one in base sixteen after its mark. -/
inductive SizeNumeral : List Char → Nat → Prop
  | decimal {cs : List Char} {n : Nat} (h : Decimal.Numeral 10 cs n) : SizeNumeral cs n
  | hexadecimal {digits : List Char} {n : Nat} (h : Decimal.Numeral 16 digits n) :
      SizeNumeral ('0' :: 'x' :: digits) n

theorem sizeNumeral_iff {cs : List Char} {n : Nat} : SizeNumeral cs n ↔ Decimal.Numeral 10 cs n ∨
    ∃ digits, cs = '0' :: 'x' :: digits ∧ Decimal.Numeral 16 digits n := by
  constructor
  · intro size
    cases size with
    | decimal h => exact Or.inl h
    | hexadecimal h => exact Or.inr ⟨_, rfl, h⟩
  · rintro (h | ⟨digits, rfl, h⟩)
    · exact .decimal h
    · exact .hexadecimal h

theorem SizeNumeral.isBlank_eq_false {cs : List Char} {n : Nat} (h : SizeNumeral cs n) :
    ∀ c ∈ cs, isBlank c = false := by
  cases h with
  | decimal h => exact h.isBlank_eq_false
  | hexadecimal h =>
    exact List.forall_mem_cons.2 ⟨rfl, List.forall_mem_cons.2 ⟨rfl, h.isBlank_eq_false⟩⟩

/-- The mark tells the bases apart, so no text is a numeral in both. -/
theorem SizeNumeral.unique {cs : List Char} {n m : Nat} (h : SizeNumeral cs n)
    (h' : SizeNumeral cs m) : n = m := by
  cases h with
  | decimal h =>
    cases h' with
    | decimal h' => exact h.unique h'
    | hexadecimal h' => exact absurd h Decimal.not_numeral_of_mark
  | hexadecimal h =>
    cases h' with
    | decimal h' => exact absurd h' Decimal.not_numeral_of_mark
    | hexadecimal h' => exact h.unique h'

/-- The text is such a numeral of the number, with blanks around it or without. -/
inductive WritesSize (text : String) (n : Nat) : Prop
  | intro (before numeral after : List Char) (split : text.toList = before ++ numeral ++ after)
    (front : ∀ c ∈ before, isBlank c = true) (back : ∀ c ∈ after, isBlank c = true)
    (size : SizeNumeral numeral n)

theorem writesSize_iff {text : String} {n : Nat} :
    WritesSize text n ↔ SizeNumeral (trimChars text.toList) n := by
  constructor
  · rintro ⟨before, numeral, after, split, front, back, size⟩
    have found : trimChars text.toList = numeral :=
      (trimBy_eq_iff size.isBlank_eq_false).2 ⟨before, after, split, front, back⟩
    rwa [found]
  · intro size
    obtain ⟨before, after, split, front, back⟩ := exists_eq_trimBy isBlank text.toList
    exact ⟨before, _, after, split, front, back, size⟩

theorem WritesSize.unique {text : String} {n m : Nat} (h : WritesSize text n)
    (h' : WritesSize text m) : n = m :=
  (writesSize_iff.1 h).unique (writesSize_iff.1 h')

theorem isSize_iff {text : String} {n : Nat} : IsSize text n ↔ WritesSize text n ∧ n < 2 ^ 64 := by
  rw [IsSize, writesSize_iff, sizeNumeral_iff, and_comm]

theorem readSize?_of_writesSize {text : String} {n : Nat} (h : WritesSize text n) :
    readSize? text = if n < 2 ^ 64 then some n else none := by
  apply Option.ext
  intro m
  rw [readSize?_eq_some_iff, isSize_iff, Option.ite_none_right_eq_some, Option.some.injEq]
  constructor
  · rintro ⟨h', small⟩
    obtain rfl := h.unique h'
    exact ⟨small, rfl⟩
  · rintro ⟨small, rfl⟩
    exact ⟨h, small⟩

/-- A numeral alone is the text of a size. -/
theorem writesSize_ofList {cs : List Char} {n : Nat} (size : SizeNumeral cs n) :
    WritesSize (String.ofList cs) n :=
  ⟨[], cs, [], by simp, by simp, by simp, size⟩

theorem writesSize_toString (n : Nat) : WritesSize (toString n) n := by
  have ten : ∀ d < 10, Decimal.Digit 10 d.digitChar d := fun d small =>
    (Decimal.digit_digitChar d (by omega)).of_lt small
  have digits := Decimal.numeral_toDigits id (by decide) ten n
  rw [List.map_id] at digits
  rw [Nat.toString_eq_ofList_toDigits]
  exact writesSize_ofList (.decimal digits)

theorem writesSize_hexadecimal (written : Char → Char)
    (digit : ∀ d < 16, Decimal.Digit 16 (written d.digitChar) d) (n : Nat) :
    WritesSize (String.ofList ('0' :: 'x' :: (Nat.toDigits 16 n).map written)) n :=
  writesSize_ofList (.hexadecimal (Decimal.numeral_toDigits written (by decide) digit n))

/-- The reader of sizes takes the texts of the numbers of 64 bits, as these numbers. A text of a
greater number is refused and not cut down to 64 bits; as a variable it leaves the limit on bodies
alone. Among the texts of a number are its digits in base ten, and those in base sixteen after `0x`,
with small letters or with capitals. -/
theorem size_text_exact :
    (∀ text n, readSize? text = some n ↔ WritesSize text n ∧ n ≤ 2 ^ 64 - 1) ∧
    (∀ text n, WritesSize text n → readSize? text = if n < 2 ^ 64 then some n else none) ∧
    (∀ n, n ≤ 2 ^ 64 - 1 → readSize? (toString n) = some n ∧
      readSize? (String.ofList ('0' :: 'x' :: Nat.toDigits 16 n)) = some n ∧
      readSize? (String.ofList ('0' :: 'x' :: (Nat.toDigits 16 n).map Char.toUpper)) = some n) ∧
    ∀ (settings : Settings) (env : Environment) text n,
      env "ROUTELOOM_MAX_BODY_BYTES" = some text → WritesSize text n →
      (settings.override env).maxBodyBytes = if n < 2 ^ 64 then n else settings.maxBodyBytes := by
  have reads : ∀ text n, WritesSize text n → n ≤ 2 ^ 64 - 1 → readSize? text = some n := by
    intro text n size bounded
    rw [readSize?_of_writesSize size, if_pos (by omega)]
  refine ⟨fun text n => ?_, fun text n => readSize?_of_writesSize, fun n bounded => ?_, ?_⟩
  · rw [readSize?_eq_some_iff, isSize_iff]
    exact and_congr_right fun _ => by omega
  · have small := writesSize_hexadecimal id Decimal.digit_digitChar n
    rw [List.map_id] at small
    exact ⟨reads _ n (writesSize_toString n) bounded, reads _ n small bounded,
      reads _ n (writesSize_hexadecimal Char.toUpper Decimal.digit_toUpper_digitChar n) bounded⟩
  · intro settings env text n set size
    rw [Settings.override, set, Option.bind_some, readSize?_of_writesSize size]
    split <;> rfl

/-- The greatest number of 64 bits, with a sign, zeros in front and letters of either case, and the
next number as it is printed. -/
theorem size_text_exact_at_limit :
    let greatest := "\t0x+00fFfFfFfFFFFFFFFf\u3000"
    let beyond := toString (2 ^ 64)
    let env : Environment := fun name =>
      if name = "ROUTELOOM_MAX_BODY_BYTES" then some beyond else none
    WritesSize greatest (2 ^ 64 - 1) ∧ WritesSize beyond (2 ^ 64) ∧
      readSize? greatest = some (2 ^ 64 - 1) ∧ readSize? beyond = none ∧
      readSize? (toString (2 ^ 64 - 1)) = some (2 ^ 64 - 1) ∧
      (Settings.ofEnvironment env).maxBodyBytes = 0x100000 := by
  intro greatest beyond env
  obtain ⟨reads, bound, prints, overrides⟩ := size_text_exact
  have read : readSize? greatest = some (2 ^ 64 - 1) := by decide
  have written : WritesSize greatest (2 ^ 64 - 1) := ((reads _ _).1 read).1
  have writtenBeyond : WritesSize beyond (2 ^ 64) := writesSize_toString _
  exact ⟨written, writtenBeyond, read, bound beyond _ writtenBeyond,
    (prints (2 ^ 64 - 1) (Nat.le_refl _)).1, overrides {} env beyond _ rfl writtenBeyond⟩

end RequestRouter
