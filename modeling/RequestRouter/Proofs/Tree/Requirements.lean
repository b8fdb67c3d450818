import RequestRouter.Proofs.Record.Conversion
import RequestRouter.Proofs.Tree.Selection

/-!
# Requirements of endpoints

A tree is checked once, against the scopes that its patterns and layers build up. Each of them
changes the request as it changes the scope, so a request that arrives at a leaf provides what the
leaf's scope promises, and an endpoint that passed its check finds all that it declares.
-/

namespace RequestRouter

/-- The scope below the node, if its pattern compiles. -/
def Hop.scope : Hop → Scope → Option Scope
  | .pattern source, outer =>
    match Pattern.compile source with
    | .ok p => some (outer.nest p)
    | .error _ => none
  | .layer l, outer => some (l.scope outer)

def Leaf.scope (leaf : Leaf) (outer : Scope) : Option Scope :=
  leaf.way.foldlM (fun outer hop => hop.scope outer) outer

theorem Leaf.scope_below (leaf : Leaf) (hop : Hop) (outer : Scope) :
    (leaf.below hop).scope outer = (hop.scope outer).bind leaf.scope :=
  List.foldlM_cons

/-- What the node adds to a scope. A pattern that does not compile has no parameters. -/
def Hop.extend : Hop → Scope → Scope
  | .pattern source, outer =>
    match Pattern.compile source with
    | .ok p => outer.nest p
    | .error _ => { outer with path := outer.path ++ source }
  | .layer l, outer => l.scope outer

/-- The scope at the endpoint, whether or not the patterns above it compile. -/
def Leaf.scopeBelow (leaf : Leaf) (outer : Scope) : Scope :=
  leaf.way.foldl (fun outer hop => hop.extend outer) outer

theorem Leaf.scopeBelow_below (leaf : Leaf) (hop : Hop) (outer : Scope) :
    (leaf.below hop).scopeBelow outer = leaf.scopeBelow (hop.extend outer) := rfl

theorem Hop.extend_of_scope {hop : Hop} {outer inner : Scope}
    (promised : hop.scope outer = some inner) : hop.extend outer = inner := by
  cases hop with
  | layer l => exact Option.some.inj promised
  | pattern source =>
    simp only [Hop.scope] at promised
    simp only [Hop.extend]
    cases compiled : Pattern.compile source with
    | error _ => simp [compiled] at promised
    | ok p => simpa [compiled] using promised

theorem Leaf.scopeBelow_of_scope {leaf : Leaf} {outer inner : Scope}
    (promised : leaf.scope outer = some inner) : leaf.scopeBelow outer = inner := by
  induction leaf using Leaf.induct generalizing outer with
  | endpoint e => exact Option.some.inj promised
  | below hop leaf ih =>
    rw [scope_below, Option.bind_eq_some_iff] at promised
    obtain ⟨middle, first, rest⟩ := promised
    rw [scopeBelow_below, Hop.extend_of_scope first, ih rest]

def Layer.produces? : Layer → Option Schema
  | .jsonBody schema _ => some schema
  | _ => none

/-- The schema of the body parser that stands closest above the endpoint. -/
def Leaf.parser (leaf : Leaf) : Option Schema :=
  (leaf.layers.filterMap Layer.produces?).getLast?

theorem Layer.body_scope (l : Layer) (outer : Scope) :
    (l.scope outer).body = l.produces?.or outer.body := by
  cases l <;> rfl

theorem Leaf.body_scopeBelow (leaf : Leaf) (outer : Scope) :
    (leaf.scopeBelow outer).body = leaf.parser.or outer.body := by
  induction leaf using Leaf.induct generalizing outer with
  | endpoint e => rfl
  | below hop leaf ih =>
    rw [scopeBelow_below, ih]
    cases hop with
    | layer l =>
      have nearest : (leaf.below (.layer l)).parser = leaf.parser.or l.produces? := by
        cases h : l.produces? with
        | none => simp [parser, h]
        | some schema => simp [parser, h, List.getLast?_cons]
      rw [Hop.extend, Layer.body_scope, nearest, Option.or_assoc]
    | pattern source =>
      simp only [Hop.extend]
      cases Pattern.compile source <;> rfl

/-- The scope of a leaf promises the body of its parser. -/
theorem Leaf.body_of_scope {leaf : Leaf} {outer inner : Scope}
    (promised : leaf.scope outer = some inner) : inner.body = leaf.parser.or outer.body := by
  rw [← scopeBelow_of_scope promised, body_scopeBelow]

/-- A tree passes its check only if every leaf does, in the scope on its way. -/
theorem RouteTree.check_leaf {t : RouteTree} {scope : Scope} (h : t.check scope = .ok ())
    {leaf : Leaf} (listed : leaf ∈ t.leaves) :
    ∃ inner, leaf.scope scope = some inner ∧
      Endpoint.check leaf.endpoint.declares inner = .ok () := by
  induction t using RouteTree.induct generalizing scope leaf with
  | endpoint e =>
    have own : leaf = ⟨[], e⟩ := by simpa [leaves] using listed
    rw [own]
    exact ⟨scope, rfl, h⟩
  | bind pattern nested ih =>
    obtain ⟨inner, member, rfl⟩ := List.mem_map.1 listed
    rw [check] at h
    cases compiled : Pattern.compile pattern with
    | error cause => simp [compiled] at h
    | ok p =>
      rw [compiled] at h
      simp only [Leaf.scope_below, Hop.scope, compiled]
      exact ih h member
  | group members ih =>
    obtain ⟨t, among, member⟩ := mem_leaves_group.1 listed
    rw [check, checkAll_eq_ok_iff] at h
    exact ih t among (h t among) member
  | null => cases listed
  | layer l nested ih =>
    obtain ⟨inner, member, rfl⟩ := List.mem_map.1 listed
    simp only [Leaf.scope_below, Hop.scope]
    exact ih h member

/-- The request has what the scope promises: the parameters, the body in the parser's shape, and
the mixins with their fields. -/
structure Scope.Provides (scope : Scope) (s : RequestState) : Prop where
  params : ∀ name ∈ scope.params.names, name ∈ s.params.names
  body : ∀ schema, scope.body = some schema →
    ∃ fields, s.body = .structured fields ∧ fields.Shaped schema
  mixins : ∀ name schema, scope.mixins.get? name = some schema →
    ∃ fields, s.mixin? name = some fields ∧ ∀ field ∈ schema.names, field ∈ fields.names

namespace Scope.Provides

variable {scope : Scope} {s : RequestState}

theorem root (s : RequestState) : Scope.root.Provides s where
  params := nofun
  body := nofun
  mixins := nofun

theorem nest (h : scope.Provides s) {source : String} {p : Pattern}
    (compiled : Pattern.compile source = .ok p) {m : PrefixMatch}
    (found : p.matchPrefix s.remaining = some m) :
    (scope.nest p).Provides ((s.withParams m.captures).consume m.consumed) where
  params := by
    have whole := Pattern.compiled_of_compile compiled
    obtain ⟨value, -, holds⟩ := Pattern.matchPrefix_some whole found
    intro name listed
    refine Table.mem_names_union.2 ?_
    rw [holds.names_eq]
    exact (Table.mem_names_union.1 listed).imp_left (h.params name)
  body := h.body
  mixins := h.mixins

theorem withBody (h : scope.Provides s) {schema : Schema} {fields : Record}
    (shaped : fields.Shaped schema) :
    (scope.withBody schema).Provides (s.withBody (.structured fields)) where
  params := h.params
  body := by
    intro _ produced
    cases produced
    exact ⟨fields, rfl, shaped⟩
  mixins := h.mixins

theorem withMixin (h : scope.Provides s) (name : String) {schema : Schema} {fields : Record}
    (covered : ∀ field ∈ schema.names, field ∈ fields.names) :
    (scope.withMixin name schema).Provides (s.withMixin name fields) where
  params := h.params
  body := h.body
  mixins := by
    intro n wanted
    simp only [Scope.withMixin, RequestState.mixin?, RequestState.withMixin, Table.get?_insert]
    split
    · rintro ⟨⟩
      exact ⟨fields, rfl, covered⟩
    · exact h.mixins n wanted

theorem withExtensions (h : scope.Provides s) (extras : Extensions) :
    scope.Provides (s.withExtensions extras) :=
  ⟨h.params, h.body, h.mixins⟩

end Scope.Provides

theorem Layer.shaped_of_readBody {schema : Schema} {policy : ConversionPolicy} {raw : List UInt8}
    {c : Conversion} (h : readBody schema policy raw = .ok c) : c.record.Shaped schema := by
  obtain ⟨v, -, rest⟩ := except_bind_eq_ok_iff.1 h
  obtain ⟨fields, -, converted⟩ := except_bind_eq_ok_iff.1 rest
  exact Record.shaped_of_convert (except_mapError_eq_ok_iff.1 converted)

/-- A layer adds to the request what it adds to the scope. -/
theorem Layer.provides_of_pass {l : Layer} {scope : Scope} {s s' : RequestState}
    (h : scope.Provides s) (passed : l.pass s = some s') : (l.scope scope).Provides s' := by
  cases l with
  | jsonBody schema policy =>
    obtain ⟨c, parsed, rfl⟩ := pass_jsonBody.1 passed
    exact (h.withBody (shaped_of_readBody parsed)).withExtensions c.extras
  | cookies schema =>
    cases passed
    cases schema with
    | none => exact h.withMixin cookiesMixin fun _ listed => absurd listed List.not_mem_nil
    | some schema =>
      refine (h.withMixin cookiesMixin fun field listed => ?_).withExtensions _
      rw [(Record.shaped_fit _ schema).names_eq]
      exact listed
  | notFound | serverFault | profile | tracing | metrics _ | custom _ =>
    cases passed
    exact h

/-- The invariant of the way to a leaf. -/
theorem Hop.provides_of_pass {hop : Hop} {scope inner : Scope} {s s' : RequestState}
    (h : scope.Provides s) (promised : hop.scope scope = some inner)
    (passed : hop.pass s = some s') : inner.Provides s' := by
  cases hop with
  | layer l =>
    cases promised
    exact Layer.provides_of_pass h passed
  | pattern source =>
    simp only [Hop.scope] at promised
    simp only [Hop.pass, RouteTree.bindPattern] at passed
    cases compiled : Pattern.compile source with
    | error cause => simp [compiled] at promised
    | ok p =>
      rw [compiled] at promised passed
      cases promised
      obtain ⟨m, found, rfl⟩ := Option.map_eq_some_iff.1 passed
      exact h.nest compiled found

/-- A request that arrives at a leaf provides the leaf's scope. -/
theorem Leaf.provides_of_arrive {leaf : Leaf} {scope inner : Scope} {s arriving : RequestState}
    (h : scope.Provides s) (promised : leaf.scope scope = some inner)
    (arrives : leaf.arrive s = some arriving) : inner.Provides arriving := by
  induction leaf using Leaf.induct generalizing scope s with
  | endpoint e =>
    cases promised
    cases arrives
    exact h
  | below hop leaf ih =>
    rw [scope_below, Option.bind_eq_some_iff] at promised
    obtain ⟨middle, first, rest⟩ := promised
    obtain ⟨s', passed, further⟩ := arrive_below_eq_some_iff.1 arrives
    have provides : middle.Provides s' := Hop.provides_of_pass h first passed
    exact ih provides rest further

end RequestRouter
