import RequestRouter.Proofs.Table.Lookup
import RequestRouter.Record.Conversion

/-!
# Shapes of converted records

A converted record has the names of its target, and a value of the declared kind wherever that kind
is exact. If the source has all names of the target, a conversion can fail on a value only.
-/

namespace RequestRouter

theorem Decimal.signed?_bounds {limit : Nat} (positive : 0 < limit) {cs : List Char} {n : Int}
    (h : signed? limit cs = some n) : -(limit : Int) ≤ n ∧ n < limit := by
  unfold signed? at h
  split at h
  all_goals
    obtain ⟨m, read, rfl⟩ := Option.map_eq_some_iff.1 h
    obtain ⟨magnitude, kept, made⟩ := Option.bind_eq_some_iff.1 read
    have bound := of_decide_eq_true (Option.filter_eq_some_iff.1 kept).2
    have same : (magnitude : Int) = m := Option.some.inj made
    omega

namespace FieldKind

/-- Every value that stands for a field of the kind is of the kind. A number can be the null that
stands for a NaN, and `any` admits every value. -/
def Exact : FieldKind → Prop
  | .string => True
  | .integer => True
  | .boolean => True
  | .number => False
  | .any => False

theorem of_ofInt {n : Int} (lower : -0x8000000000000000 ≤ n) (upper : n < 0x8000000000000000) :
    of (.ofInt n) = .integer := by
  have below : n < 0x10000000000000000 := Int.lt_trans upper (by decide)
  rw [Json.ofInt, Number.ofInt?, dif_pos lower, dif_pos below]
  rfl

theorem of_defaultValue {kind : FieldKind} (exact : kind.Exact) : of kind.defaultValue = kind := by
  cases kind with
  | string | integer | boolean => rfl
  | number | any => exact exact.elim

theorem of_coerce {kind : FieldKind} (exact : kind.Exact) {v w : Json}
    (h : kind.coerce v = some w) : of w = kind := by
  cases kind with
  | number | any => exact exact.elim
  | string =>
    cases v with
    | string _ | number _ | bool _ =>
      cases h
      rfl
    | null | array _ | object _ => cases h
  | boolean =>
    cases v with
    | bool _ =>
      cases h
      rfl
    | string s =>
      obtain ⟨b, -, rfl⟩ := Option.map_eq_some_iff.1 h
      rfl
    | null | number _ | array _ | object _ => cases h
  | integer =>
    cases v with
    | number m =>
      obtain ⟨n, read, rfl⟩ := Option.map_eq_some_iff.1 h
      cases m with
      | double x finite => cases read
      | integer m lower upper =>
        simp only [Number.int64?, Option.ite_none_right_eq_some, Option.some.injEq] at read
        obtain ⟨small, rfl⟩ := read
        exact of_ofInt lower small
    | string s =>
      obtain ⟨n, read, rfl⟩ := Option.map_eq_some_iff.1 h
      obtain ⟨lower, upper⟩ := Decimal.signed?_bounds (by decide) read
      exact of_ofInt lower upper
    | null | bool _ | array _ | object _ => cases h

end FieldKind

namespace Record

/-- A record in the shape of a schema: with its names, and of its kinds where they are exact. -/
structure Shaped (r : Record) (target : Schema) : Prop where
  names_eq : r.names = target.names
  kinds : ∀ name kind, target.get? name = some kind → kind.Exact →
    ∃ v, r.get? name = some v ∧ FieldKind.of v = kind

theorem fit_get? (r : Record) (target : Schema) (name : String) :
    (r.fit target).record.get? name = (target.get? name).map fun kind =>
      ((r.get? name).bind kind.coerce).getD kind.defaultValue := by
  show (Table.combine Conversion.field target r).get? name = _
  rw [Table.get?_combine, Table.joinedAt]
  cases target.get? name <;> cases r.get? name <;> rfl

theorem shaped_fit (r : Record) (target : Schema) : (r.fit target).record.Shaped target := by
  constructor
  · refine Table.names_eq_of_mem_iff fun name => ?_
    simp only [Table.mem_names_iff, fit_get?]
    cases target.get? name <;> simp
  · intro name kind declared exact
    refine ⟨((r.get? name).bind kind.coerce).getD kind.defaultValue, ?_, ?_⟩
    · rw [fit_get?, declared, Option.map_some]
    cases coerced : (r.get? name).bind kind.coerce with
    | none => exact FieldKind.of_defaultValue exact
    | some w =>
      obtain ⟨v, -, made⟩ := Option.bind_eq_some_iff.1 coerced
      exact FieldKind.of_coerce exact made

/-- A record in the shape of a schema, filled from the fields of another one: each declared field
has the value given for it in the declared kind, or that kind's default where it is absent or does
not coerce. -/
structure Filled (given : Record) (target : Schema) (r : Record) : Prop where
  names_eq : r.names = target.names
  values : ∀ name kind, target.get? name = some kind →
    r.get? name = some (((given.get? name).bind kind.coerce).getD kind.defaultValue)

theorem filled_fit (given : Record) (target : Schema) :
    given.Filled target (given.fit target).record := by
  refine ⟨(shaped_fit given target).names_eq, fun name kind declared => ?_⟩
  rw [fit_get?, declared, Option.map_some]

theorem eq_fit_of_convert {r : Record} {target : Schema} {policy : ConversionPolicy}
    {c : Conversion} (h : r.convert target policy = .ok c) : c = r.fit target := by
  cases policy with
  | lenient =>
    cases h
    rfl
  | strict =>
    simp only [convert] at h
    split at h
    · cases h
    · split at h
      · cases h
        rfl
      · cases h

theorem shaped_of_convert {r : Record} {target : Schema} {policy : ConversionPolicy}
    {c : Conversion} (h : r.convert target policy = .ok c) : c.record.Shaped target := by
  rw [eq_fit_of_convert h]
  exact shaped_fit r target

/-- A declared field that the source has, with a value that does not coerce. -/
structure Unfit (target : Schema) (r : Record) (name : String) (kind : FieldKind) : Prop where
  declared : target.get? name = some kind
  given : ∃ v, r.get? name = some v ∧ kind.coerce v = none

theorem unfit_of_mem_failures {r : Record} {target : Schema} {name : String} {kind : FieldKind}
    (h : (name, kind) ∈ r.failures target) : Unfit target r name kind := by
  obtain ⟨j, walked, failed⟩ := List.mem_filterMap.1 h
  rw [mem_join_iff target.increasing r.increasing] at walked
  cases j with
  | left _ _ | right _ _ => cases failed
  | both n k v =>
    simp only [Conversion.failure, Option.ite_none_right_eq_some, Option.some.injEq,
      Prod.mk.injEq, Option.isNone_iff_eq_none] at failed
    obtain ⟨refuses, rfl, rfl⟩ := failed
    exact ⟨Table.get?_eq_some_iff.2 walked.1, v, Table.get?_eq_some_iff.2 walked.2, refuses⟩

/-- What the strict policy converts has no declared field with a value that does not coerce. -/
theorem not_unfit_of_convert {r : Record} {target : Schema} {c : Conversion}
    (h : r.convert target .strict = .ok c) (name : String) (kind : FieldKind) :
    ¬ Unfit target r name kind := by
  rintro ⟨declared, v, given, refuses⟩
  have walked : Joined.both name kind v ∈ join target.entries r.entries :=
    (mem_join_iff target.increasing r.increasing).2
      ⟨Table.get?_eq_some_iff.1 declared, Table.get?_eq_some_iff.1 given⟩
  have listed : (name, kind) ∈ r.failures target :=
    List.mem_filterMap.2 ⟨_, walked, by simp [Conversion.failure, refuses]⟩
  simp only [convert] at h
  split at h
  · cases h
  · rename_i none
    rw [none] at listed
    cases listed

/-- With all names of the target at hand, only the strict policy fails, on a value. -/
theorem convert_eq_error {r : Record} {target : Schema} {policy : ConversionPolicy}
    {cause : RecordError} (covered : ∀ name ∈ target.names, name ∈ r.names)
    (h : r.convert target policy = .error cause) :
    policy = .strict ∧ ∃ name kind, cause = .mistyped name kind ∧ Unfit target r name kind := by
  cases policy with
  | lenient => cases h
  | strict =>
    refine ⟨rfl, ?_⟩
    simp only [convert] at h
    split at h
    · rename_i name kind rest failures
      cases h
      exact ⟨name, kind, rfl, unfit_of_mem_failures (by rw [failures]; exact List.mem_cons_self)⟩
    · have none : (r.fit target).missing = [] :=
        Table.isEmpty_iff.1 (Table.isEmpty_subtract_iff.2 covered)
      rw [none] at h
      cases h

end Record

end RequestRouter
