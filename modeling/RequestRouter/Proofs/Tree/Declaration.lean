import RequestRouter.Proofs.Tree.Requirements

/-!
# Declarations that are met

What it means for a request to meet an endpoint's declaration, and why a request that provides what
the endpoint's check was given does: its parameters convert unless the strict policy refuses a
value, and what comes of it has every declared field, with a value of the declared kind where that
kind is exact.
-/

namespace RequestRouter

/-- Schemas without conflict declare a name alike, unless one of them admits any value. -/
theorem Schema.isEmpty_kindConflicts_iff {a b : Schema} :
    (a.kindConflicts b).isEmpty = true ↔ ∀ name x y, a.get? name = some x → b.get? name = some y →
      kindsConflict x y = false := by
  rw [List.isEmpty_iff, kindConflicts, List.filterMap_eq_nil_iff]
  constructor
  · intro none name x y left right
    have walked : Joined.both name x y ∈ join a.entries b.entries :=
      (mem_join_iff a.increasing b.increasing).2
        ⟨Table.get?_eq_some_iff.1 left, Table.get?_eq_some_iff.1 right⟩
    simpa using none _ walked
  · intro agree j walked
    rw [mem_join_iff a.increasing b.increasing] at walked
    cases j with
    | left _ _ | right _ _ => rfl
    | both name x y =>
      simp [agree name x y (Table.get?_eq_some_iff.2 walked.1) (Table.get?_eq_some_iff.2 walked.2)]

theorem Schema.eq_of_not_kindsConflict {x y : FieldKind} (agree : kindsConflict x y = false)
    (exact : x.Exact) (narrow : y ≠ .any) : x = y := by
  have wide : x ≠ .any := by
    rintro rfl
    exact exact
  simpa [kindsConflict, wide, narrow] using agree

namespace Endpoint

theorem bodyFits_iff {wanted provided : Schema} :
    bodyFits wanted provided = true ↔ (∀ name ∈ wanted.names, name ∈ provided.names) ∧
      ∀ name x y, wanted.get? name = some x → provided.get? name = some y →
        Schema.kindsConflict x y = false := by
  rw [bodyFits, Bool.and_eq_true, Table.isEmpty_subtract_iff, Schema.isEmpty_kindConflicts_iff]

theorem bodyFault_eq_none_iff {d : Declaration} {scope : Scope} :
    bodyFault d scope = none ↔ ∀ wanted, d.body = some wanted →
      ∃ provided, scope.body = some provided ∧ bodyFits wanted provided = true := by
  unfold bodyFault
  cases d.body with
  | none => simp
  | some wanted =>
    cases scope.body with
    | none => simp
    | some provided => simp

theorem missingOfMixin_eq_nil_iff {scope : Scope} {name : String} {wanted : Schema} :
    missingOfMixin scope name wanted = [] ↔ ∃ provided, scope.mixins.get? name = some provided ∧
      ∀ field ∈ wanted.names, field ∈ provided.names := by
  unfold missingOfMixin
  cases scope.mixins.get? name with
  | none => simp
  | some provided => simp [← Table.isEmpty_iff, Table.isEmpty_subtract_iff]

theorem missingMixins_eq_nil_iff {d : Declaration} {scope : Scope} :
    missingMixins d scope = [] ↔ ∀ name wanted, d.mixins.get? name = some wanted →
      ∃ provided, scope.mixins.get? name = some provided ∧
        ∀ field ∈ wanted.names, field ∈ provided.names := by
  rw [missingMixins, List.flatMap_eq_nil_iff]
  simp only [Prod.forall, missingOfMixin_eq_nil_iff, Table.get?_eq_some_iff]

theorem check_eq_ok_iff {d : Declaration} {scope : Scope} :
    check d scope = .ok () ↔ (∀ name ∈ d.params.names, name ∈ scope.params.names) ∧
      missingMixins d scope = [] ∧ bodyFault d scope = none := by
  rw [← Table.isEmpty_subtract_iff, ← List.isEmpty_iff]
  unfold check
  dsimp only
  split
  · rename_i lacks
    rw [Bool.not_eq_true'] at lacks
    simp [lacks]
  · rename_i covered
    rw [Bool.not_eq_true', Bool.not_eq_false] at covered
    split
    · rename_i lacks
      rw [Bool.not_eq_true'] at lacks
      simp [lacks]
    · rename_i attached
      rw [Bool.not_eq_true', Bool.not_eq_false] at attached
      cases bodyFault d scope <;> simp [covered, attached]

/-- The check ends with the first kind of fault: parameters, then mixins, then the body. -/
theorem check_eq_error_iff {d : Declaration} {scope : Scope} {e : RouteError} :
    check d scope = .error e ↔
      ((d.params.subtract scope.params).names ≠ [] ∧
        .missingParams (routeName d scope) (d.params.subtract scope.params).names = e) ∨
      ((d.params.subtract scope.params).names = [] ∧ missingMixins d scope ≠ [] ∧
        .missingMixins (routeName d scope) (missingMixins d scope) = e) ∨
      ((d.params.subtract scope.params).names = [] ∧ missingMixins d scope = [] ∧
        ∃ detail, bodyFault d scope = some detail ∧
          .bodyMismatch (routeName d scope) detail = e) := by
  by_cases bound : (d.params.subtract scope.params).names = []
  · have covered : (d.params.subtract scope.params).isEmpty = true := Table.isEmpty_iff.2 bound
    by_cases attached : missingMixins d scope = []
    · cases fault : bodyFault d scope <;> simp [check, covered, bound, attached, fault]
    · simp [check, covered, bound, attached]
  · have lacks : (d.params.subtract scope.params).isEmpty = false := by
      rw [← Bool.not_eq_true, Table.isEmpty_iff]
      exact bound
    simp [check, lacks, bound]

/-- The request has all that the declaration asks for, below a parser that produces `parser`. -/
structure Met (d : Declaration) (parser : Option Schema) (s : RequestState) : Prop where
  params : ∀ name ∈ d.params.names, name ∈ s.params.names
  /-- No other parameters, if any are declared. -/
  params_only : d.params.names ≠ [] → s.params.names = d.params.names
  params_kinds : ∀ name kind, d.params.get? name = some kind → kind.Exact →
    ∃ v, s.params.get? name = some v ∧ FieldKind.of v = kind
  /-- The fields that the parser declares with a kind of their own hold values of it. -/
  body : ∀ wanted, d.body = some wanted → ∃ provided fields, parser = some provided ∧
    s.body = .structured fields ∧ (∀ name ∈ wanted.names, name ∈ fields.names) ∧
    ∀ name kind, wanted.get? name = some kind → kind.Exact → provided.get? name ≠ some .any →
      ∃ v, fields.get? name = some v ∧ FieldKind.of v = kind
  mixins : ∀ name wanted, d.mixins.get? name = some wanted → ∃ fields,
    s.mixin? name = some fields ∧ ∀ field ∈ wanted.names, field ∈ fields.names

/-- A body in the parser's shape serves an endpoint that the parser fits. -/
theorem body_of_fits {wanted provided : Schema} {fields : Record}
    (fits : bodyFits wanted provided = true) (shaped : fields.Shaped provided) :
    (∀ name ∈ wanted.names, name ∈ fields.names) ∧
      ∀ name kind, wanted.get? name = some kind → kind.Exact → provided.get? name ≠ some .any →
        ∃ v, fields.get? name = some v ∧ FieldKind.of v = kind := by
  obtain ⟨covered, agree⟩ := bodyFits_iff.1 fits
  constructor
  · rw [shaped.names_eq]
    exact covered
  · intro name kind declared exact narrow
    obtain ⟨own, produced⟩ :=
      Table.mem_names_iff.1 (covered name (Table.mem_names_iff.2 ⟨kind, declared⟩))
    have same : kind = own :=
      Schema.eq_of_not_kindsConflict (agree name kind own declared produced) exact
        fun any => narrow (any ▸ produced)
    subst same
    exact shaped.kinds name kind produced exact

/-- The parameters of a prepared request. -/
theorem params_of_prepare {d : Declaration} {s prepared : RequestState}
    (h : prepare d s = .ok prepared) :
    prepared.body = s.body ∧ prepared.mixins = s.mixins ∧
      (d.params.names = [] ∨ prepared.params.Shaped d.params) := by
  obtain ⟨none, rfl⟩ | ⟨-, c, converted, rfl⟩ := prepare_cases h
  · exact ⟨rfl, rfl, Or.inl none⟩
  · exact ⟨rfl, rfl, Or.inr (Record.shaped_of_convert converted)⟩

/-- An endpoint that passed its check in a scope is met by what a request becomes that provides the
scope. -/
theorem met_of_provides {d : Declaration} {scope : Scope} {s prepared : RequestState}
    (checked : check d scope = .ok ()) (provides : scope.Provides s)
    (converted : prepare d s = .ok prepared) : Met d scope.body prepared := by
  obtain ⟨-, mixins, body⟩ := check_eq_ok_iff.1 checked
  obtain ⟨sameBody, sameMixins, params⟩ := params_of_prepare converted
  refine ⟨?_, ?_, ?_, ?_, ?_⟩
  · rcases params with none | shaped
    · simp [none]
    · rw [shaped.names_eq]
      exact fun _ listed => listed
  · intro some
    exact (params.resolve_left some).names_eq
  · intro name kind declared exact
    have listed : name ∈ d.params.names := Table.mem_names_iff.2 ⟨kind, declared⟩
    have some : d.params.names ≠ [] := List.ne_nil_of_mem listed
    exact (params.resolve_left some).kinds name kind declared exact
  · intro wanted declared
    obtain ⟨provided, produced, fits⟩ := bodyFault_eq_none_iff.1 body wanted declared
    obtain ⟨fields, structured, shaped⟩ := provides.body provided produced
    exact ⟨provided, fields, produced, sameBody.trans structured, body_of_fits fits shaped⟩
  · intro name wanted declared
    obtain ⟨provided, attached, covered⟩ := missingMixins_eq_nil_iff.1 mixins name wanted declared
    obtain ⟨fields, found, all⟩ := provides.mixins name provided attached
    refine ⟨fields, ?_, fun field listed => all field (covered field listed)⟩
    rw [RequestState.mixin?, sameMixins]
    exact found

/-- The parameters convert, unless the strict policy refuses the value of a declared one. -/
theorem unfit_of_prepare {d : Declaration} {scope : Scope} {s : RequestState} {cause : RecordError}
    (checked : check d scope = .ok ()) (provides : scope.Provides s)
    (fails : prepare d s = .error cause) :
    d.policy.getD s.policy = .strict ∧
      ∃ name kind, cause = .mistyped name kind ∧ Record.Unfit d.params s.params name kind := by
  obtain ⟨params, -, -⟩ := check_eq_ok_iff.1 checked
  unfold prepare at fails
  split at fails
  · cases fails
  · exact Record.convert_eq_error (fun name listed => provides.params name (params name listed))
      (except_map_eq_error_iff.1 fails)

end Endpoint

end RequestRouter
