import RequestRouter.Proofs.Record.Conversion
import RequestRouter.Proofs.Record.OnePass
import RequestRouter.Proofs.Table.Algebra

/-!
# Conversions account for every field

What becomes of each name of a record and of its target, under both policies. Main statement: a
lenient conversion succeeds, and every name of either side stands in exactly the outputs where it
belongs; a strict one rejects the least value that does not coerce, else all missing names, else it
is the lenient one; and fields that the target does not declare take no part in either.
-/

namespace RequestRouter

/-- The kind that a shared name declares and its value does not coerce to. -/
def Conversion.refused : Joined FieldKind Json → Option FieldKind
  | .both _ kind v => if (kind.coerce v).isNone then some kind else none
  | _ => none

namespace Record

/-- The failures of a record are a table by themselves. -/
theorem failures_eq (r : Record) (target : Schema) :
    r.failures target = (Table.combine Conversion.refused target r).entries := by
  rw [failures, Table.combine]
  congr 1
  funext j
  cases j with
  | left _ _ | right _ _ => rfl
  | both name kind v =>
    by_cases refuses : (kind.coerce v).isNone
    · simp [Conversion.failure, Conversion.refused, refuses, Joined.name]
    · simp [Conversion.failure, Conversion.refused, refuses]

theorem failures_increasing (r : Record) (target : Schema) : Increasing (r.failures target) := by
  rw [failures_eq]
  exact (Table.combine Conversion.refused target r).increasing

theorem mem_failures_iff {r : Record} {target : Schema} {name : String} {kind : FieldKind} :
    (name, kind) ∈ r.failures target ↔ Unfit target r name kind := by
  constructor
  · exact unfit_of_mem_failures
  · rintro ⟨declared, v, given, refuses⟩
    rw [failures_eq, ← Table.get?_eq_some_iff, Table.get?_combine, Table.joinedAt, declared, given]
    simp [Conversion.refused, refuses]

theorem failures_eq_nil_iff {r : Record} {target : Schema} :
    r.failures target = [] ↔ ∀ name kind, ¬ Unfit target r name kind := by
  rw [List.eq_nil_iff_forall_not_mem, Prod.forall]
  simp only [mem_failures_iff]

/-- The first failure is the one of the least name. -/
theorem failures_eq_cons {r : Record} {target : Schema} {name : String} {kind : FieldKind}
    {rest : List (Entry FieldKind)} (found : r.failures target = (name, kind) :: rest) :
    Unfit target r name kind ∧ ∀ other k, Unfit target r other k → name ≤ other := by
  have increasing := failures_increasing r target
  rw [found] at increasing
  refine ⟨mem_failures_iff.1 (found ▸ List.mem_cons_self), fun other k unfit => ?_⟩
  have listed := mem_failures_iff.2 unfit
  rw [found] at listed
  rcases List.mem_cons.1 listed with same | later
  · obtain ⟨rfl, -⟩ := Prod.mk.inj same
    exact String.le_refl _
  · exact String.not_lt.1 (String.lt_asymm ((List.pairwise_cons.1 increasing).1 _ later))

/-- Where the books of a conversion stand: the converted record has exactly the names of the
target, each with the coerced value or else with the default of its kind; the names that took a
default are listed in order, by the reason for it; and the extras are the fields of the record
that the target does not declare, as they were. -/
structure Accounts (r : Record) (target : Schema) (c : Conversion) : Prop where
  names_eq : c.record.names = target.names
  shared : ∀ name kind v, target.get? name = some kind → r.get? name = some v →
    c.record.get? name = some ((kind.coerce v).getD kind.defaultValue)
  absent : ∀ name kind, target.get? name = some kind → r.get? name = none →
    c.record.get? name = some kind.defaultValue
  mistyped_increasing : c.mistyped.Pairwise (· < ·)
  mem_mistyped : ∀ name, name ∈ c.mistyped ↔ ∃ kind, Unfit target r name kind
  missing_increasing : c.missing.Pairwise (· < ·)
  missing_eq : c.missing = target.names.filter (· ∉ r.names)
  extras : ∀ name, c.extras.get? name = if (target.get? name).isSome then none else r.get? name

theorem accounts_fit (r : Record) (target : Schema) : Accounts r target (r.fit target) where
  names_eq := (shaped_fit r target).names_eq
  shared name kind v declared given := by rw [fit_get?, declared, given]; rfl
  absent name kind declared lacks := by rw [fit_get?, declared, lacks]; rfl
  mistyped_increasing := List.pairwise_map.2 (failures_increasing r target)
  mem_mistyped name := by
    show name ∈ Entry.names (r.failures target) ↔ _
    rw [Entry.mem_names]
    exact exists_congr fun kind => mem_failures_iff
  missing_increasing := Table.names_pairwise _
  missing_eq := Table.names_subtract target r
  extras name := Table.get?_subtract

/-- What a strict conversion comes to. A value that does not coerce counts before a name that is
missing, however the names are ordered. -/
inductive Strict (r : Record) (target : Schema) : Except RecordError Conversion → Prop where
  /-- The least name whose value does not coerce is rejected. -/
  | mistyped {name : String} {kind : FieldKind} (unfit : Unfit target r name kind)
      (least : ∀ other k, Unfit target r other k → name ≤ other) :
      Strict r target (.error (.mistyped name kind))
  /-- Every value coerces, and some names are missing: all of them are reported, in order. -/
  | missing (coerces : ∀ name kind, ¬ Unfit target r name kind)
      (lacks : target.names.filter (· ∉ r.names) ≠ []) :
      Strict r target (.error (.missingFields (target.names.filter (· ∉ r.names))))
  /-- Every value coerces, and no name is missing. -/
  | complete {c : Conversion} (coerces : ∀ name kind, ¬ Unfit target r name kind)
      (covered : ∀ name ∈ target.names, name ∈ r.names)
      (lenient : r.convert target .lenient = .ok c) : Strict r target (.ok c)

theorem missing_fit (r : Record) (target : Schema) :
    (r.fit target).missing = target.names.filter (· ∉ r.names) :=
  (accounts_fit r target).missing_eq

theorem strict_convert (r : Record) (target : Schema) :
    Strict r target (r.convert target .strict) := by
  cases found : r.failures target with
  | cons first rest =>
    obtain ⟨name, kind⟩ := first
    obtain ⟨unfit, least⟩ := failures_eq_cons found
    rw [convert_strict_of_failure found]
    exact .mistyped unfit least
  | nil =>
    have coerces := failures_eq_nil_iff.1 found
    rw [convert_strict_of_coerces found, missing_fit]
    simp only [List.isEmpty_iff]
    split
    · rename_i none
      refine .complete coerces (fun name declared => ?_) rfl
      have kept := List.filter_eq_nil_iff.1 none name declared
      simpa using kept
    · rename_i lacks
      exact .missing coerces lacks

/-- The rules leave a strict conversion one result. -/
theorem Strict.unique {r : Record} {target : Schema} {x y : Except RecordError Conversion}
    (hx : Strict r target x) (hy : Strict r target y) : x = y := by
  cases hx with
  | mistyped unfit least =>
    cases hy with
    | mistyped unfit' least' =>
      have same := String.le_antisymm (least _ _ unfit') (least' _ _ unfit)
      subst same
      have kinds := unfit.declared.symm.trans unfit'.declared
      rw [Option.some.inj kinds]
    | missing coerces _ | complete coerces _ _ => exact absurd unfit (coerces _ _)
  | missing coerces lacks =>
    cases hy with
    | mistyped unfit _ => exact absurd unfit (coerces _ _)
    | missing _ _ => rfl
    | complete _ covered _ =>
      refine absurd (List.filter_eq_nil_iff.2 fun name declared => ?_) lacks
      simpa using covered name declared
  | complete coerces covered lenient =>
    cases hy with
    | mistyped unfit _ => exact absurd unfit (coerces _ _)
    | missing _ lacks =>
      refine absurd (List.filter_eq_nil_iff.2 fun name declared => ?_) lacks
      simpa using covered name declared
    | complete _ _ lenient' => exact lenient.symm.trans lenient'

theorem convert_strict_iff {r : Record} {target : Schema}
    {result : Except RecordError Conversion} :
    r.convert target .strict = result ↔ Strict r target result :=
  ⟨fun made => made ▸ strict_convert r target, (strict_convert r target).unique⟩

theorem project_get? (r : Record) (s : Schema) (name : String) :
    (r.project s).get? name = if (s.get? name).isSome then r.get? name else none :=
  Table.get?_intersection

theorem failures_project (r : Record) (target : Schema) :
    (r.project target).failures target = r.failures target := by
  rw [failures_eq, failures_eq]
  refine congrArg Table.entries (Table.ext_get? fun name => ?_)
  rw [Table.get?_combine, Table.get?_combine, Table.joinedAt, Table.joinedAt, project_get?]
  cases target.get? name with
  | none => cases r.get? name <;> rfl
  | some kind => rfl

/-- Without the fields that the target does not declare, all is the same but the extras. -/
theorem fit_project (r : Record) (target : Schema) :
    (r.project target).fit target = { r.fit target with extras := .empty } := by
  have record : ((r.project target).fit target).record = (r.fit target).record := by
    refine Table.ext_get? fun name => ?_
    rw [fit_get?, fit_get?, project_get?]
    cases target.get? name <;> rfl
  have extras : ((r.project target).fit target).extras = .empty := by
    refine Table.ext_get? fun name => ?_
    rw [(accounts_fit _ _).extras, project_get?]
    cases target.get? name <;> rfl
  have missing : ((r.project target).fit target).missing = (r.fit target).missing := by
    refine congrArg Table.names (Table.ext_get? fun name => ?_)
    rw [Table.get?_subtract, Table.get?_subtract, project_get?]
    cases target.get? name <;> simp
  have mistyped : ((r.project target).fit target).mistyped = (r.fit target).mistyped :=
    congrArg (List.map Prod.fst) (failures_project r target)
  exact (Conversion.mk.injEq ..).mpr ⟨record, extras, missing, mistyped⟩

theorem convert_project (r : Record) (target : Schema) (policy : ConversionPolicy) :
    (r.project target).convert target policy =
      (r.convert target policy).map fun c => { c with extras := .empty } := by
  cases policy with
  | lenient => exact congrArg Except.ok (fit_project r target)
  | strict =>
    simp only [convert, failures_project, fit_project]
    split
    · rfl
    · split <;> rfl

/-- A lenient conversion succeeds and accounts for every field; it takes a default exactly where
the source has no value that coerces. A strict one has the result of its three rules. Fields that
the target does not declare end as extras, and without them everything else is the same: they
never make a conversion fail. One walk over the target and the record takes all of it down. -/
theorem convert_accounts (r : Record) (target : Schema) :
    (∃ c, r.convert target .lenient = .ok c ∧ Accounts r target c) ∧
      (∀ result, r.convert target .strict = result ↔ Strict r target result) ∧
      (∀ policy, (r.project target).convert target policy =
        (r.convert target policy).map fun c => { c with extras := .empty }) ∧
      ∀ policy, (r.convert target policy).map Conversion.tally =
        Tally.ofWalk policy (join target.entries r.entries) :=
  ⟨⟨r.fit target, rfl, accounts_fit r target⟩, fun _ => convert_strict_iff,
    convert_project r target, convert_eq_ofWalk r target⟩

/-- A value that does not coerce is rejected before a lesser name that is missing. -/
example : Record.convert (.single "z" (.string "x"))
    (Table.insert (.single "a" .string) "z" .integer) .strict = .error (.mistyped "z" .integer) :=
  rfl

end Record

end RequestRouter
