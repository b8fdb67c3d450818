import RequestRouter.Proofs.Decimal.Signed
import RequestRouter.Proofs.Record.Fitting

/-!
# Integers as text

An integer field takes the texts that spell an integer of 64 bits, and takes each as the integer
that it spells. The text that a string field makes of such an integer, or of a truth value, is read
back as it.
-/

namespace RequestRouter

/-- The value is the integer, which has 64 bits with its sign. -/
structure Json.IsInt64 (v : Json) (n : Int) : Prop where
  lower : -2 ^ 63 ≤ n
  upper : n ≤ 2 ^ 63 - 1
  eq_integer : ∃ least most, v = .number (.integer n least most)

theorem Json.isInt64_ofInt {n : Int} (lower : -2 ^ 63 ≤ n) (upper : n ≤ 2 ^ 63 - 1) :
    (ofInt n).IsInt64 n := by
  have least : -0x8000000000000000 ≤ n := by omega
  have most : n < 0x10000000000000000 := by omega
  have made : ofInt n = .number (.integer n least most) := by
    rw [ofInt, Number.ofInt?, dif_pos least, dif_pos most]
  exact ⟨lower, upper, least, most, made⟩

theorem Json.IsInt64.eq_ofInt {v : Json} {n : Int} (h : v.IsInt64 n) : v = .ofInt n := by
  obtain ⟨least, most, same⟩ := h.eq_integer
  obtain ⟨least', most', made⟩ := (isInt64_ofInt h.lower h.upper).eq_integer
  rw [same, made]

namespace FieldKind

theorem readInteger?_eq_some_iff {s : String} {n : Int} :
    readInteger? s = some n ↔ Decimal.Spells s n ∧ -2 ^ 63 ≤ n ∧ n ≤ 2 ^ 63 - 1 := by
  rw [Decimal.spells_iff]
  exact Decimal.signed?_eq_some_iff

theorem coerce_integer_string_eq_some_iff {s : String} {v : Json} :
    integer.coerce (.string s) = some v ↔ ∃ n, Decimal.Spells s n ∧ v.IsInt64 n := by
  simp only [coerce, Option.map_eq_some_iff, readInteger?_eq_some_iff]
  constructor
  · rintro ⟨n, ⟨spelled, lower, upper⟩, rfl⟩
    exact ⟨n, spelled, Json.isInt64_ofInt lower upper⟩
  · rintro ⟨n, spelled, is⟩
    exact ⟨n, ⟨spelled, is.lower, is.upper⟩, is.eq_ofInt.symm⟩

/-- The integer of a field whose value is text is that of the text. -/
theorem integer?_eq_readInteger? {r : Record} {name s : String}
    (found : r.get? name = some (.string s)) : r.integer? name = readInteger? s := by
  rw [Record.integer?, found, Option.bind_some, coerce]
  cases read : readInteger? s with
  | none => rfl
  | some n =>
    obtain ⟨-, lower, upper⟩ := readInteger?_eq_some_iff.1 read
    obtain ⟨least, most, made⟩ := (Json.isInt64_ofInt lower upper).eq_integer
    rw [Option.map_some, made]
    exact if_pos (by omega)

theorem spells_text (n : Int) (least : -0x8000000000000000 ≤ n) (most : n < 0x10000000000000000) :
    Decimal.Spells (Number.integer n least most).text n := by
  refine ⟨[], integerDigits n, [], ?_, by simp, by simp, Decimal.denotes_integerDigits n⟩
  rw [Number.text, String.toList_ofList, List.nil_append, List.append_nil]

/-- An integer becomes a numeral of it. -/
theorem coerce_string_of_isInt64 {v : Json} {n : Int} (h : v.IsInt64 n) :
    ∃ text, string.coerce v = some (.string text) ∧ Decimal.Spells text n := by
  obtain ⟨least, most, rfl⟩ := h.eq_integer
  exact ⟨_, rfl, spells_text n least most⟩

/-- An integer field takes a text iff it is a numeral between blanks, or without them, of an integer
of 64 bits: a sign or none, and any number of digits. It takes it as this integer, of which there is
only one, and so does the reader of a record's integer. The text of an integer of 64 bits is such a
numeral of it, and the text of a truth value is read as this value: both come back. -/
theorem integer_text_exact :
    (∀ s v, integer.coerce (.string s) = some v ↔ ∃ n, Decimal.Spells s n ∧ v.IsInt64 n) ∧
    (∀ s n m, Decimal.Spells s n → Decimal.Spells s m → n = m) ∧
    (∀ (r : Record) name s n, r.get? name = some (.string s) →
      (r.integer? name = some n ↔ Decimal.Spells s n ∧ -2 ^ 63 ≤ n ∧ n ≤ 2 ^ 63 - 1)) ∧
    (∀ n, -2 ^ 63 ≤ n → n ≤ 2 ^ 63 - 1 → (Json.ofInt n).IsInt64 n ∧
      ∃ text, string.coerce (.ofInt n) = some (.string text) ∧ Decimal.Spells text n ∧
        integer.coerce (.string text) = some (.ofInt n)) ∧
    ∀ b, ∃ text, string.coerce (.bool b) = some (.string text) ∧
      boolean.coerce (.string text) = some (.bool b) := by
  refine ⟨fun s v => coerce_integer_string_eq_some_iff, fun s n m => Decimal.Spells.unique, ?_, ?_,
    ?_⟩
  · intro r name s n found
    rw [integer?_eq_readInteger? found, readInteger?_eq_some_iff]
  · intro n lower upper
    have is := Json.isInt64_ofInt lower upper
    obtain ⟨text, printed, spelled⟩ := coerce_string_of_isInt64 is
    exact ⟨is, text, printed, spelled, coerce_integer_string_eq_some_iff.2 ⟨n, spelled, is⟩⟩
  · intro b
    cases b with
    | false => exact ⟨"false", rfl, rfl⟩
    | true => exact ⟨"true", rfl, rfl⟩

/-- The least integer of 64 bits, with a zero in front and between blanks. -/
def leastText : String := "\t-09223372036854775808 "

/-- One more than the greatest integer of 64 bits: what is after the sign in the text above. -/
def beyondText : String := "9223372036854775808"

theorem integer_text_exact_of_least :
    Decimal.Spells leastText (-2 ^ 63) ∧ Decimal.Spells beyondText (2 ^ 63) ∧
      integer.coerce (.string leastText) = some (.ofInt (-2 ^ 63)) ∧
      (∀ v, integer.coerce (.string beyondText) ≠ some v) ∧
      Record.integer? (.single "id" (.string leastText)) "id" = some (-2 ^ 63) ∧
      ∃ text, string.coerce (.ofInt (-2 ^ 63)) = some (.string text) ∧
        integer.coerce (.string text) = some (.ofInt (-2 ^ 63)) := by
  obtain ⟨reads, unique, record, back, -⟩ := integer_text_exact
  obtain ⟨is, text, made, -, returned⟩ := back (-2 ^ 63) (by decide) (by decide)
  have value : Nat.ofDigitChars 10 "09223372036854775808".toList 0 = 2 ^ 63 := by decide +kernel
  have digits : Decimal.Digits "09223372036854775808".toList := ⟨by simp, by simp⟩
  have denotes := Decimal.Denotes.minus digits
  rw [value] at denotes
  have spelled : Decimal.Spells leastText (-2 ^ 63) :=
    ⟨['\t'], _, [' '], by decide +kernel, by simp [isBlank], by simp [isBlank], denotes⟩
  have printed : (Number.integer 0x8000000000000000 (by decide) (by decide)).text = beyondText := by
    decide +kernel
  have spelledBeyond : Decimal.Spells beyondText (2 ^ 63) := printed ▸ spells_text _ _ _
  have found : (Table.single "id" (Json.string leastText)).get? "id" = some (.string leastText) :=
    rfl
  refine ⟨spelled, spelledBeyond, (reads _ _).2 ⟨_, spelled, is⟩, fun v read => ?_,
    (record _ _ _ _ found).2 ⟨spelled, is.lower, is.upper⟩, text, made, returned⟩
  obtain ⟨n, small, within⟩ := (reads _ _).1 read
  have same := unique _ _ _ small spelledBeyond
  have upper := within.upper
  omega

end FieldKind

end RequestRouter
