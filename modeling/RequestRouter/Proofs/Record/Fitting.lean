import RequestRouter.Proofs.Decimal.Finite
import RequestRouter.Proofs.Record.Accounts

/-!
# Records that fit a schema

A record fits a schema if it has the same names and every value coerces to itself; these are the
records that conversion leaves as they are. Main statements: a converted record holds values of the
declared kinds and fits its target, except where a number field took the null that stands for a NaN
or an infinity; and a record fits its own schema, except where it holds an integer beyond 2^63 - 1.
-/

namespace RequestRouter

namespace Json

theorem ofFloat_of_finite {x : Float} (finite : x.isFinite = true) :
    ofFloat x = .number (.double x finite) := by
  rw [ofFloat, Number.ofFloat?, dif_pos finite]

theorem ofFloat_of_not_finite {x : Float} (infinite : ¬ x.isFinite = true) : ofFloat x = .null := by
  rw [ofFloat, Number.ofFloat?, dif_neg infinite]

/-- An integer of 64 bits that has no place among the signed ones. -/
def Unsigned : Json → Prop
  | .number (.integer n _ _) => 0x8000000000000000 ≤ n
  | _ => False

instance : DecidablePred Unsigned := fun v =>
  match v with
  | .number (.integer n _ _) => inferInstanceAs (Decidable (0x8000000000000000 ≤ n))
  | .number (.double _ _) | .null | .bool _ | .string _ | .array _ | .object _ => isFalse id

end Json

theorem Json.Unsigned.of_eq {v : Json} (beyond : v.Unsigned) : FieldKind.of v = .integer := by
  cases v with
  | null | bool _ | string _ | array _ | object _ => exact beyond.elim
  | number n =>
    cases n with
    | double _ _ => exact beyond.elim
    | integer _ _ _ => rfl

theorem Number.isFinite_toFloat (n : Number) : n.toFloat.isFinite = true := by
  cases n with
  | integer n lower upper => exact Decimal.isFinite_ofInt lower upper
  | double x finite => exact finite

namespace FieldKind

/-- Text of a number that is no finite double: a NaN, an infinity, or a decimal fraction beyond the
greatest double. -/
def Limitless (s : String) : Prop :=
  ∃ x, Decimal.float? (trimChars s.toList) = some x ∧ ¬ x.isFinite = true

theorem coerce_ofInt {n : Int} (lower : -0x8000000000000000 ≤ n) (upper : n < 0x8000000000000000) :
    integer.coerce (.ofInt n) = some (.ofInt n) := by
  have below : n < 0x10000000000000000 := Int.lt_trans upper (by decide)
  have made : Json.ofInt n = .number (.integer n lower below) := by
    rw [Json.ofInt, Number.ofInt?, dif_pos lower, dif_pos below]
  rw [made, coerce, Number.int64?, if_pos upper, Option.map_some, made]

/-- A number field takes a finite double, or else the null that stands for text of any other. -/
theorem coerce_number {v w : Json} (h : number.coerce v = some w) :
    (∃ x finite, w = .number (.double x finite)) ∨
      w = .null ∧ ∃ s, v = .string s ∧ Limitless s := by
  cases v with
  | null | bool _ | array _ | object _ => cases h
  | number n =>
    cases h
    exact .inl ⟨_, _, Json.ofFloat_of_finite n.isFinite_toFloat⟩
  | string s =>
    obtain ⟨x, read, rfl⟩ := Option.map_eq_some_iff.1 h
    by_cases finite : x.isFinite = true
    · exact .inl ⟨x, finite, Json.ofFloat_of_finite finite⟩
    · exact .inr ⟨Json.ofFloat_of_not_finite finite, s, rfl, x, read, finite⟩

theorem coerce_number_limitless {s : String} (limitless : Limitless s) :
    number.coerce (.string s) = some .null := by
  obtain ⟨x, read, infinite⟩ := limitless
  rw [coerce, read, Option.map_some, Json.ofFloat_of_not_finite infinite]

theorem coerce_double (x : Float) (finite : x.isFinite = true) :
    number.coerce (.number (.double x finite)) = some (.number (.double x finite)) := by
  rw [coerce, Number.toFloat, Json.ofFloat_of_finite finite]

/-- What a value was coerced to coerces to itself, unless it is the null of a number field. -/
theorem coerce_coerce {kind : FieldKind} {v w : Json} (h : kind.coerce v = some w) :
    kind.coerce w = some w ∨ kind = .number ∧ ∃ s, v = .string s ∧ Limitless s := by
  cases kind with
  | any => exact .inl rfl
  | number =>
    rcases coerce_number h with ⟨x, finite, rfl⟩ | ⟨-, limitless⟩
    · exact .inl (coerce_double x finite)
    · exact .inr ⟨rfl, limitless⟩
  | string =>
    cases v with
    | string _ | number _ | bool _ =>
      cases h
      exact .inl rfl
    | null | array _ | object _ => cases h
  | boolean =>
    cases v with
    | bool _ =>
      cases h
      exact .inl rfl
    | string s =>
      obtain ⟨b, -, rfl⟩ := Option.map_eq_some_iff.1 h
      exact .inl rfl
    | null | number _ | array _ | object _ => cases h
  | integer =>
    cases v with
    | number m =>
      obtain ⟨n, read, rfl⟩ := Option.map_eq_some_iff.1 h
      cases m with
      | double x finite => cases read
      | integer m lower upper =>
        simp only [Number.int64?, Option.ite_none_right_eq_some, Option.some.injEq] at read
        obtain ⟨small, rfl⟩ := read
        exact .inl (coerce_ofInt lower small)
    | string s =>
      obtain ⟨n, read, rfl⟩ := Option.map_eq_some_iff.1 h
      obtain ⟨lower, upper⟩ := Decimal.signed?_bounds (by decide) read
      exact .inl (coerce_ofInt lower upper)
    | null | bool _ | array _ | object _ => cases h

/-- What coerces to itself is of the kind, if the kind is not `any`. -/
theorem of_eq_of_coerce_self {kind : FieldKind} {v : Json} (specific : kind ≠ .any)
    (settled : kind.coerce v = some v) : of v = kind := by
  cases kind with
  | any => exact absurd rfl specific
  | string | integer | boolean =>
    refine of_coerce ?_ settled
    trivial
  | number =>
    rcases coerce_number settled with ⟨x, finite, rfl⟩ | ⟨rfl, s, text, -⟩
    · rfl
    · cases text

theorem coerce_defaultValue (kind : FieldKind) :
    kind.coerce kind.defaultValue = some kind.defaultValue := by
  cases kind with
  | string | integer | boolean | any => rfl
  | number =>
    have finite : (0.0 : Float).isFinite = true := by decide +kernel
    rw [defaultValue, Json.ofFloat_of_finite finite]
    exact coerce_double 0.0 finite

/-- Which kind a value has and which kind takes it are decided apart from each other. They agree on
all values but the integers that are unsigned only. -/
theorem coerce_of (v : Json) : (of v).coerce v = if v.Unsigned then none else some v := by
  cases v with
  | null | bool _ | string _ | array _ | object _ => rfl
  | number n =>
    cases n with
    | double x finite => exact coerce_double x finite
    | integer n lower upper =>
      by_cases signed : n < 0x8000000000000000
      · have fits : ¬ Json.Unsigned (.number (.integer n lower upper)) := Int.not_le.2 signed
        rw [if_neg fits, of, coerce, Number.int64?, if_pos signed, Option.map_some, Json.ofInt,
          Number.ofInt?, dif_pos lower, dif_pos upper]
      · have beyond : Json.Unsigned (.number (.integer n lower upper)) := Int.not_lt.1 signed
        rw [if_pos beyond, of, coerce, Number.int64?, if_neg signed, Option.map_none]

end FieldKind

namespace Record

/-- The names of the schema, with values that coerce to themselves. -/
structure Fits (r : Record) (target : Schema) : Prop where
  names_eq : r.names = target.names
  settled : ∀ name kind v, target.get? name = some kind → r.get? name = some v →
    kind.coerce v = some v

theorem Fits.not_unfit {r : Record} {target : Schema} (fits : r.Fits target) (name : String)
    (kind : FieldKind) : ¬ Unfit target r name kind := by
  rintro ⟨declared, v, given, refuses⟩
  have settled := fits.settled name kind v declared given
  rw [refuses] at settled
  cases settled

/-- With the names of the target, a record has nothing over and nothing missing. -/
theorem fit_of_names_eq {r : Record} {target : Schema} (same : r.names = target.names) :
    (r.fit target).extras = .empty ∧ (r.fit target).missing = [] := by
  have books := accounts_fit r target
  constructor
  · refine Table.ext_get? fun name => ?_
    rw [books.extras]
    cases declared : target.get? name with
    | some _ => rfl
    | none =>
      rw [Table.get?_eq_none_iff, ← same, ← Table.get?_eq_none_iff] at declared
      exact declared
  · rw [books.missing_eq, same]
    exact List.filter_eq_nil_iff.2 fun name listed => by simpa using listed

theorem fit_of_fits {r : Record} {target : Schema} (fits : r.Fits target) :
    r.fit target = ⟨r, .empty, [], []⟩ := by
  have record : (r.fit target).record = r := by
    refine Table.ext_get? fun name => ?_
    rw [fit_get?]
    cases declared : target.get? name with
    | none =>
      rw [Table.get?_eq_none_iff, ← fits.names_eq, ← Table.get?_eq_none_iff] at declared
      exact declared.symm
    | some kind =>
      have listed : name ∈ r.names := fits.names_eq ▸ Table.mem_names_iff.2 ⟨kind, declared⟩
      obtain ⟨v, given⟩ := Table.mem_names_iff.1 listed
      simp [given, fits.settled name kind v declared given]
  have mistyped : (r.fit target).mistyped = [] := by
    refine List.eq_nil_iff_forall_not_mem.2 fun name listed => ?_
    obtain ⟨kind, unfit⟩ := ((accounts_fit r target).mem_mistyped name).1 listed
    exact fits.not_unfit name kind unfit
  obtain ⟨extras, missing⟩ := fit_of_names_eq fits.names_eq
  exact (Conversion.mk.injEq ..).mpr ⟨record, extras, missing, mistyped⟩

/-- A record that fits is left as it is, under either policy. -/
theorem convert_of_fits {r : Record} {target : Schema} (fits : r.Fits target)
    (policy : ConversionPolicy) : r.convert target policy = .ok ⟨r, .empty, [], []⟩ := by
  cases policy with
  | lenient => exact congrArg Except.ok (fit_of_fits fits)
  | strict =>
    have coerces := failures_eq_nil_iff.2 fits.not_unfit
    rw [convert_strict_of_coerces coerces, fit_of_fits fits]
    rfl

/-- A number field that finds the text of a number that is no finite double. -/
def Lost (r : Record) (target : Schema) (name : String) : Prop :=
  target.get? name = some .number ∧ ∃ s, r.get? name = some (.string s) ∧ FieldKind.Limitless s

theorem fit_get?_of_lost {r : Record} {target : Schema} {name : String}
    (lost : r.Lost target name) : (r.fit target).record.get? name = some .null := by
  obtain ⟨declared, s, given, limitless⟩ := lost
  rw [fit_get?, declared, given]
  simp [FieldKind.coerce_number_limitless limitless]

/-- Every other field holds a value of its kind that coerces to itself. -/
theorem fit_get?_of_not_lost {r : Record} {target : Schema} {name : String} {kind : FieldKind}
    (declared : target.get? name = some kind) (kept : ¬ r.Lost target name) :
    ∃ v, (r.fit target).record.get? name = some v ∧ kind.coerce v = some v := by
  rw [fit_get?, declared, Option.map_some]
  refine ⟨_, rfl, ?_⟩
  cases coerced : (r.get? name).bind kind.coerce with
  | none => exact FieldKind.coerce_defaultValue kind
  | some w =>
    obtain ⟨v, given, made⟩ := Option.bind_eq_some_iff.1 coerced
    rcases FieldKind.coerce_coerce made with again | ⟨rfl, s, rfl, limitless⟩
    · exact again
    · exact absurd ⟨declared, s, given, limitless⟩ kept

theorem unfit_fit_iff {r : Record} {target : Schema} {name : String} {kind : FieldKind} :
    Unfit target (r.fit target).record name kind ↔ kind = .number ∧ r.Lost target name := by
  constructor
  · rintro ⟨declared, v, held, refuses⟩
    by_cases lost : r.Lost target name
    · exact ⟨Option.some.inj (declared.symm.trans lost.1), lost⟩
    · obtain ⟨w, holds, settled⟩ := fit_get?_of_not_lost declared lost
      cases Option.some.inj (held.symm.trans holds)
      rw [refuses] at settled
      cases settled
  · rintro ⟨rfl, lost⟩
    exact ⟨lost.1, .null, fit_get?_of_lost lost, rfl⟩

theorem fits_fit {r : Record} {target : Schema} (kept : ∀ name, ¬ r.Lost target name) :
    (r.fit target).record.Fits target := by
  constructor
  · exact (shaped_fit r target).names_eq
  · intro name kind v declared held
    obtain ⟨w, holds, settled⟩ := fit_get?_of_not_lost declared (kept name)
    cases Option.some.inj (held.symm.trans holds)
    exact settled

/-- What a conversion delivers: every declared field holds a value of its kind, except that a
number field holds null where the text for it is no finite double. Without such a field, converting
the result once more changes nothing; with one, the strict policy rejects the least. -/
theorem convert_delivers {r : Record} {target : Schema} {policy : ConversionPolicy}
    {c : Conversion} (made : r.convert target policy = .ok c) :
    (∀ name kind, target.get? name = some kind → kind ≠ .any →
      ∃ v, c.record.get? name = some v ∧ (¬ r.Lost target name → FieldKind.of v = kind) ∧
        (r.Lost target name → v = .null)) ∧
      ((∀ name, ¬ r.Lost target name) → ∀ again,
        c.record.convert target again = .ok ⟨c.record, .empty, [], []⟩) ∧
      ∀ name, r.Lost target name → (∀ other, r.Lost target other → name ≤ other) →
        c.record.convert target .strict = .error (.mistyped name .number) := by
  rw [eq_fit_of_convert made]
  refine ⟨fun name kind declared specific => ?_, fun kept again => ?_, fun name lost least => ?_⟩
  · by_cases lost : r.Lost target name
    · exact ⟨.null, fit_get?_of_lost lost, absurd lost, fun _ => rfl⟩
    · obtain ⟨v, holds, settled⟩ := fit_get?_of_not_lost declared lost
      have kind_eq := FieldKind.of_eq_of_coerce_self specific settled
      exact ⟨v, holds, fun _ => kind_eq, fun gone => absurd gone lost⟩
  · exact convert_of_fits (fits_fit kept) again
  · refine convert_strict_iff.2 (.mistyped (unfit_fit_iff.2 ⟨rfl, lost⟩) fun other k unfit => ?_)
    exact least other (unfit_fit_iff.1 unfit).2

theorem convert_delivers_integer :
    ∃ c, Record.convert (.single "n" (.string " 7 ")) (.single "n" .integer) .lenient = .ok c ∧
      (∃ v, c.record.get? "n" = some v ∧ FieldKind.of v = .integer) ∧
      c.record.convert (.single "n" .integer) .strict = .ok ⟨c.record, .empty, [], []⟩ := by
  have kept (name : String) :
      ¬ Lost (.single "n" (.string " 7 ")) (.single "n" .integer) name := by
    rintro ⟨declared, -⟩
    rw [Table.get?_single] at declared
    split at declared <;> cases declared
  have made : Record.convert (.single "n" (.string " 7 ")) (.single "n" .integer) .lenient =
      .ok (fit (.single "n" (.string " 7 ")) (.single "n" .integer)) := rfl
  obtain ⟨values, again, -⟩ := convert_delivers made
  obtain ⟨v, holds, same, -⟩ := values "n" .integer rfl (by decide)
  exact ⟨_, made, ⟨v, holds, same (kept "n")⟩, again kept .strict⟩

/-- The text of a NaN fits a number field, and yet a null comes of it, which does not. -/
theorem nan_not_delivered :
    ∃ c, Record.convert (.single "x" (.string "NaN")) (.single "x" .number) .lenient = .ok c ∧
      (∃ v, c.record.get? "x" = some v ∧ FieldKind.of v = .any) ∧ c.mistyped = [] ∧
      c.record.convert (.single "x" .number) .strict = .error (.mistyped "x" .number) := by
  have limitless : FieldKind.Limitless "NaN" := ⟨0.0 / 0.0, rfl, by decide +kernel⟩
  have lost : Lost (.single "x" (.string "NaN")) (.single "x" .number) "x" :=
    ⟨rfl, "NaN", rfl, limitless⟩
  refine ⟨_, rfl, ⟨.null, fit_get?_of_lost lost, rfl⟩, ?_, ?_⟩
  · rfl
  · refine convert_strict_iff.2 (.mistyped (unfit_fit_iff.2 ⟨rfl, lost⟩) fun other k unfit => ?_)
    have named := (unfit_fit_iff.1 unfit).2.1
    rw [Table.get?_single] at named
    split at named
    · rename_i same
      exact same ▸ String.le_refl _
    · cases named

/-! ## The record's own schema -/

variable {r : Record}

theorem get?_schema (name : String) : r.schema.get? name = (r.get? name).map FieldKind.of :=
  Table.get?_map

theorem names_schema (r : Record) : r.names = r.schema.names := by
  refine Table.names_eq_of_mem_iff fun name => ?_
  simp only [Table.mem_names_iff, get?_schema]
  cases r.get? name <;> simp

/-- The values that the kind of their own field does not take. -/
theorem unfit_schema_iff {name : String} {kind : FieldKind} :
    Unfit r.schema r name kind ↔
      kind = .integer ∧ ∃ v, r.get? name = some v ∧ v.Unsigned := by
  constructor
  · rintro ⟨declared, v, given, refuses⟩
    rw [get?_schema, given, Option.map_some, Option.some.injEq] at declared
    subst declared
    rw [FieldKind.coerce_of] at refuses
    by_cases beyond : v.Unsigned
    · exact ⟨beyond.of_eq, v, given, beyond⟩
    · rw [if_neg beyond] at refuses
      cases refuses
  · rintro ⟨rfl, v, given, beyond⟩
    have kind := beyond.of_eq
    refine ⟨?_, v, given, ?_⟩
    · rw [get?_schema, given, Option.map_some, kind]
    · rw [← kind, FieldKind.coerce_of, if_pos beyond]

theorem fits_schema (signed : ∀ name v, r.get? name = some v → ¬ v.Unsigned) :
    r.Fits r.schema := by
  constructor
  · exact r.names_schema
  · intro name kind v declared given
    rw [get?_schema, given, Option.map_some, Option.some.injEq] at declared
    subst declared
    rw [FieldKind.coerce_of, if_neg (signed name v given)]

/-- Under its own schema a record loses the integers that are unsigned only. -/
theorem fit_schema (r : Record) :
    r.fit r.schema = ⟨r.map fun v => if v.Unsigned then .number .zero else v, .empty, [],
      (r.filter fun e => e.2.Unsigned).names⟩ := by
  have books := accounts_fit r r.schema
  have record : (r.fit r.schema).record =
      r.map fun v => if v.Unsigned then .number .zero else v := by
    refine Table.ext_get? fun name => ?_
    rw [fit_get?, get?_schema, Table.get?_map]
    cases r.get? name with
    | none => rfl
    | some v =>
      by_cases beyond : v.Unsigned
      · have refuses := FieldKind.coerce_of v
        rw [if_pos beyond, beyond.of_eq] at refuses
        simp [beyond, beyond.of_eq, refuses, FieldKind.defaultValue]
      · simp [FieldKind.coerce_of, beyond]
  obtain ⟨extras, missing⟩ := fit_of_names_eq r.names_schema
  have mistyped : (r.fit r.schema).mistyped = (r.filter fun e => e.2.Unsigned).names := by
    refine List.Pairwise.eq_of_mem_iff books.mistyped_increasing (Table.names_pairwise _)
      fun name => ?_
    rw [books.mem_mistyped]
    simp only [unfit_schema_iff]
    rw [Table.names, Entry.mem_names]
    simp [Table.filter, Table.get?_eq_some_iff]
  exact (Conversion.mk.injEq ..).mpr ⟨record, extras, missing, mistyped⟩

/-- The kind that a value has takes the value as it is, unless it is an integer that is unsigned
only. So a record without such integers is left as it is by its own schema, under either policy;
with some, the lenient policy makes each of them zero and the strict one rejects the least name. -/
theorem convert_schema (r : Record) :
    (∀ v, (FieldKind.of v).coerce v = if v.Unsigned then none else some v) ∧
      ((∀ name v, r.get? name = some v → ¬ v.Unsigned) → ∀ policy,
        r.convert r.schema policy = .ok ⟨r, .empty, [], []⟩) ∧
      r.convert r.schema .lenient =
        .ok ⟨r.map fun v => if v.Unsigned then .number .zero else v, .empty, [],
          (r.filter fun e => e.2.Unsigned).names⟩ ∧
      ∀ name v, r.get? name = some v → v.Unsigned →
        (∀ other w, r.get? other = some w → w.Unsigned → name ≤ other) →
        r.convert r.schema .strict = .error (.mistyped name .integer) := by
  refine ⟨FieldKind.coerce_of, fun signed policy => convert_of_fits (fits_schema signed) policy,
    congrArg Except.ok (fit_schema r), fun name v given beyond least => ?_⟩
  have unfit := unfit_schema_iff.2 ⟨rfl, v, given, beyond⟩
  refine convert_strict_iff.2 (.mistyped unfit fun other k unfit' => ?_)
  obtain ⟨-, w, held, beyond'⟩ := unfit_schema_iff.1 unfit'
  exact least other w held beyond'

/-- The least integer beyond the signed ones is of the kind of integers, which does not take it. -/
theorem unsigned_not_own_kind :
    let v := Json.ofInt 9223372036854775808
    (FieldKind.of v = .integer ∧ FieldKind.integer.coerce v = none) ∧
      Record.convert (.single "n" v) (schema (.single "n" v)) .lenient =
        .ok ⟨.single "n" (.number .zero), .empty, [], ["n"]⟩ ∧
      Record.convert (.single "n" v) (schema (.single "n" v)) .strict =
        .error (.mistyped "n" .integer) :=
  ⟨⟨rfl, rfl⟩, rfl, rfl⟩

end Record

end RequestRouter
