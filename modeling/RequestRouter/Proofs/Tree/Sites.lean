import RequestRouter.Proofs.Tree.Declaration

/-!
# Sites

A tree can be wrong at a pattern or at an endpoint. These sites have an order, in which a node
comes before what is below it and the members of a group one after another. What an endpoint lacks
is told by the nodes above it alone, and the check of a tree is a walk over its sites.
-/

namespace RequestRouter

/-- The parameters of a pattern; none if it does not compile. -/
def Pattern.paramsFrom (source : String) : List String :=
  match compile source with
  | .ok p => p.params
  | .error _ => []

def Layer.attaches? : Layer → Option Schema
  | .cookies schema => some (schema.getD .empty)
  | _ => none

/-- Every field of `wanted` is in `provided`, with the same kind unless one of them admits any. -/
def Schema.ServedBy (wanted provided : Schema) : Prop :=
  ∀ name kind, wanted.get? name = some kind → ∃ own, provided.get? name = some own ∧
    (kind = own ∨ kind = .any ∨ own = .any)

namespace Leaf

variable (leaf : Leaf)

def bound : List String :=
  leaf.patterns.flatMap Pattern.paramsFrom

/-- The cookies of the layer that stands closest above the endpoint. -/
def attached : Option Schema :=
  (leaf.layers.filterMap Layer.attaches?).getLast?

/-- The mixin of a name. The only one that a layer attaches is that of the cookies. -/
def mixin? (name : String) : Option Schema :=
  if name = cookiesMixin then leaf.attached else none

/-- The declared parameters that no pattern above binds, in increasing order. -/
def unbound : List String :=
  leaf.endpoint.declares.params.names.filter (· ∉ leaf.bound)

/-- What the endpoint lacks of a declared mixin: all of it, or fields of it. -/
def lackingOf (name : String) (wanted : Schema) : List String :=
  match leaf.mixin? name with
  | none => [name]
  | some provided =>
    (wanted.names.filter (· ∉ provided.names)).map fun field => name ++ "." ++ field

def lacking : List String :=
  leaf.endpoint.declares.mixins.entries.flatMap fun (name, wanted) => leaf.lackingOf name wanted

def routeName : String :=
  leaf.method.name ++ " " ++
    if (leaf.describe "").path.isEmpty then "/" else (leaf.describe "").path

/-- The nodes above the endpoint provide all that it declares. -/
structure Served : Prop where
  params : ∀ name ∈ leaf.endpoint.declares.params.names, name ∈ leaf.bound
  mixins : ∀ name wanted, leaf.endpoint.declares.mixins.get? name = some wanted →
    name = cookiesMixin ∧ ∃ provided, leaf.attached = some provided ∧
      ∀ field ∈ wanted.names, field ∈ provided.names
  body : ∀ wanted, leaf.endpoint.declares.body = some wanted →
    ∃ provided, leaf.parser = some provided ∧ wanted.ServedBy provided

/-- What is wrong with an endpoint: its parameters come before its mixins, and these before its
body. -/
inductive Fault : RouteError → Prop
  | params (lacks : leaf.unbound ≠ []) : Fault (.missingParams leaf.routeName leaf.unbound)
  | mixins (bound : leaf.unbound = []) (lacks : leaf.lacking ≠ []) :
    Fault (.missingMixins leaf.routeName leaf.lacking)
  | noParser (bound : leaf.unbound = []) (attached : leaf.lacking = []) (wanted : Schema)
    (declared : leaf.endpoint.declares.body = some wanted) (lacks : leaf.parser = none) :
    Fault (.bodyMismatch leaf.routeName "no body parser above this endpoint")
  | body (bound : leaf.unbound = []) (attached : leaf.lacking = []) (wanted provided : Schema)
    (declared : leaf.endpoint.declares.body = some wanted) (parser : leaf.parser = some provided)
    (misfit : ¬ wanted.ServedBy provided) :
    Fault (.bodyMismatch leaf.routeName
      s!"expects {wanted.text}, parser produces {provided.text}")

end Leaf

/-- A place where a tree can be wrong. -/
inductive Site where
  | pattern (source : String)
  | endpoint (leaf : Leaf)

namespace Site

def below (hop : Hop) : Site → Site
  | .pattern source => .pattern source
  | .endpoint leaf => .endpoint (leaf.below hop)

def Sound : Site → Prop
  | .pattern source => ∃ p, Pattern.compile source = .ok p
  | .endpoint leaf => leaf.Served

inductive Fault : Site → RouteError → Prop
  | pattern {source : String} {cause : PatternError}
    (fails : Pattern.compile source = .error cause) : Fault (.pattern source) (.pattern cause)
  | endpoint {leaf : Leaf} {e : RouteError} (wrong : leaf.Fault e) : Fault (.endpoint leaf) e

end Site

/-- The check of the site on its own, in the scope that its tree stands in. -/
def Site.check (outer : Scope) : Site → Except RouteError Unit
  | .pattern source =>
    match Pattern.compile source with
    | .ok _ => .ok ()
    | .error cause => .error (.pattern cause)
  | .endpoint leaf => Endpoint.check leaf.endpoint.declares (leaf.scopeBelow outer)

namespace RouteTree

mutual

def sites : RouteTree → List Site
  | .endpoint e => [.endpoint ⟨[], e⟩]
  | .bind pattern nested => .pattern pattern :: (sites nested).map (Site.below (.pattern pattern))
  | .group members => sitesIn members
  | .null => []
  | .layer l nested => (sites nested).map (Site.below (.layer l))

def sitesIn : List RouteTree → List Site
  | [] => []
  | t :: rest => sites t ++ sitesIn rest

end

end RouteTree

/-! ## The scope on the way to an endpoint -/

namespace Layer

theorem path_scope (l : Layer) (outer : Scope) : (l.scope outer).path = outer.path := by
  cases l <;> rfl

theorem params_scope (l : Layer) (outer : Scope) : (l.scope outer).params = outer.params := by
  cases l <;> rfl

theorem mixins_scope (l : Layer) (outer : Scope) (name : String) :
    (l.scope outer).mixins.get? name =
      if name = cookiesMixin then l.attaches?.or (outer.mixins.get? name)
      else outer.mixins.get? name := by
  cases l with
  | cookies schema =>
    simp only [scope, Scope.withMixin, Table.get?_insert, attaches?, Option.some_or, eq_comm]
  | notFound | serverFault | profile | tracing | metrics _ | jsonBody _ _ | custom _ =>
    exact (ite_self _).symm

end Layer

namespace Leaf

theorem unbound_increasing (leaf : Leaf) : leaf.unbound.Pairwise (· < ·) :=
  (Table.names_pairwise _).filter _

theorem path_scopeBelow (leaf : Leaf) (outer : Scope) :
    (leaf.scopeBelow outer).path = (leaf.describe outer.path).path := by
  induction leaf using Leaf.induct generalizing outer with
  | endpoint e => rfl
  | below hop leaf ih =>
    rw [scopeBelow_below, ih]
    cases hop with
    | layer l => rw [Hop.extend, Layer.path_scope]; rfl
    | pattern source =>
      simp only [Hop.extend]
      cases compiled : Pattern.compile source with
      | error _ => rfl
      | ok p =>
        have own := (Pattern.compiled_of_compile compiled).source_eq
        simp only [Scope.nest, own]
        rfl

theorem mem_params_scopeBelow (leaf : Leaf) (outer : Scope) (name : String) :
    name ∈ (leaf.scopeBelow outer).params.names ↔
      name ∈ outer.params.names ∨ name ∈ leaf.bound := by
  induction leaf using Leaf.induct generalizing outer with
  | endpoint e => simp [scopeBelow, bound, patterns]
  | below hop leaf ih =>
    rw [scopeBelow_below, ih]
    cases hop with
    | layer l => rw [Hop.extend, Layer.params_scope]; rfl
    | pattern source =>
      have all : (leaf.below (.pattern source)).bound = Pattern.paramsFrom source ++ leaf.bound :=
        rfl
      rw [all, List.mem_append, ← or_assoc]
      simp only [Hop.extend, Pattern.paramsFrom]
      cases compiled : Pattern.compile source with
      | error _ => simp
      | ok p =>
        simp only [Scope.nest, Table.mem_names_union,
          (Pattern.compiled_of_compile compiled).mem_names_schema]

theorem mixins_scopeBelow (leaf : Leaf) (outer : Scope) (name : String) :
    (leaf.scopeBelow outer).mixins.get? name = (leaf.mixin? name).or (outer.mixins.get? name) := by
  induction leaf using Leaf.induct generalizing outer with
  | endpoint e => simp [scopeBelow, mixin?, attached, layers]
  | below hop leaf ih =>
    rw [scopeBelow_below, ih]
    cases hop with
    | layer l =>
      have nearest : (leaf.below (.layer l)).attached = leaf.attached.or l.attaches? := by
        cases h : l.attaches? with
        | none => simp [attached, h]
        | some schema => simp [attached, h, List.getLast?_cons]
      rw [Hop.extend, Layer.mixins_scope, mixin?, mixin?, nearest]
      split
      · rw [Option.or_assoc]
      · rfl
    | pattern source =>
      simp only [Hop.extend]
      cases Pattern.compile source <;> rfl

theorem routeName_eq (leaf : Leaf) :
    Endpoint.routeName leaf.endpoint.declares (leaf.scopeBelow .root) = leaf.routeName := by
  rw [Endpoint.routeName, path_scopeBelow]
  rfl

theorem unbound_eq (leaf : Leaf) :
    (leaf.endpoint.declares.params.subtract (leaf.scopeBelow .root).params).names =
      leaf.unbound := by
  rw [Table.names_subtract, unbound]
  refine List.filter_congr fun name _ => ?_
  have nothing : name ∉ Scope.root.params.names := List.not_mem_nil
  simp [mem_params_scopeBelow, nothing]

theorem mixin?_eq (leaf : Leaf) (name : String) :
    (leaf.scopeBelow .root).mixins.get? name = leaf.mixin? name := by
  rw [mixins_scopeBelow]
  exact Option.or_none

theorem mixin?_eq_some_iff {leaf : Leaf} {name : String} {provided : Schema} :
    leaf.mixin? name = some provided ↔ name = cookiesMixin ∧ leaf.attached = some provided := by
  rw [mixin?]
  split <;> simp [*]

theorem lackingOf_eq (leaf : Leaf) (name : String) (wanted : Schema) :
    Endpoint.missingOfMixin (leaf.scopeBelow .root) name wanted = leaf.lackingOf name wanted := by
  unfold Endpoint.missingOfMixin lackingOf
  rw [mixin?_eq]
  cases leaf.mixin? name with
  | none => rfl
  | some provided => simp only [Table.names_subtract]

theorem lacking_eq (leaf : Leaf) :
    Endpoint.missingMixins leaf.endpoint.declares (leaf.scopeBelow .root) = leaf.lacking :=
  List.flatMap_congr fun (name, wanted) _ => leaf.lackingOf_eq name wanted

theorem parser_eq (leaf : Leaf) : (leaf.scopeBelow .root).body = leaf.parser := by
  rw [body_scopeBelow]
  exact Option.or_none

end Leaf

theorem Schema.bodyFits_iff_servedBy {wanted provided : Schema} :
    Endpoint.bodyFits wanted provided = true ↔ wanted.ServedBy provided := by
  rw [Endpoint.bodyFits_iff]
  constructor
  · rintro ⟨covered, agree⟩ name kind declared
    obtain ⟨own, produced⟩ :=
      Table.mem_names_iff.1 (covered name (Table.mem_names_iff.2 ⟨kind, declared⟩))
    refine ⟨own, produced, ?_⟩
    have alike := agree name kind own declared produced
    simp [kindsConflict] at alike
    grind
  · intro served
    constructor
    · intro name listed
      obtain ⟨kind, declared⟩ := Table.mem_names_iff.1 listed
      obtain ⟨own, produced, -⟩ := served name kind declared
      exact Table.mem_names_iff.2 ⟨own, produced⟩
    · intro name kind y declared produced
      obtain ⟨own, found, alike⟩ := served name kind declared
      obtain rfl := Option.some.inj (found.symm.trans produced)
      simp [kindsConflict]
      grind

namespace Leaf

/-- The endpoint passes its check if the nodes above it provide what it declares. -/
theorem check_eq_ok_iff {leaf : Leaf} :
    Endpoint.check leaf.endpoint.declares (leaf.scopeBelow .root) = .ok () ↔ leaf.Served := by
  have nothing (name : String) : name ∉ Scope.root.params.names := List.not_mem_nil
  simp only [Endpoint.check_eq_ok_iff, Endpoint.missingMixins_eq_nil_iff,
    Endpoint.bodyFault_eq_none_iff, mem_params_scopeBelow, nothing, false_or, mixin?_eq,
    mixin?_eq_some_iff, parser_eq, Schema.bodyFits_iff_servedBy]
  constructor
  · rintro ⟨params, mixins, body⟩
    refine ⟨params, fun name wanted declared => ?_, body⟩
    obtain ⟨provided, ⟨cookies, attached⟩, covered⟩ := mixins name wanted declared
    exact ⟨cookies, provided, attached, covered⟩
  · rintro ⟨params, mixins, body⟩
    refine ⟨params, fun name wanted declared => ?_, body⟩
    obtain ⟨cookies, provided, attached, covered⟩ := mixins name wanted declared
    exact ⟨provided, ⟨cookies, attached⟩, covered⟩

/-- What is wrong with the body of an endpoint. -/
theorem bodyFault_eq_some_iff {leaf : Leaf} {detail : String} :
    Endpoint.bodyFault leaf.endpoint.declares (leaf.scopeBelow .root) = some detail ↔
      ∃ wanted, leaf.endpoint.declares.body = some wanted ∧
        ((leaf.parser = none ∧ "no body parser above this endpoint" = detail) ∨
          ∃ provided, leaf.parser = some provided ∧ ¬ wanted.ServedBy provided ∧
            s!"expects {wanted.text}, parser produces {provided.text}" = detail) := by
  unfold Endpoint.bodyFault
  rw [parser_eq]
  cases leaf.endpoint.declares.body with
  | none => simp
  | some wanted =>
    cases leaf.parser with
    | none => simp
    | some provided => simp [← Schema.bodyFits_iff_servedBy]

/-- The endpoint fails its check with what is wrong with it. -/
theorem check_eq_error_iff {leaf : Leaf} {e : RouteError} :
    Endpoint.check leaf.endpoint.declares (leaf.scopeBelow .root) = .error e ↔ leaf.Fault e := by
  simp only [Endpoint.check_eq_error_iff, unbound_eq, lacking_eq, routeName_eq,
    bodyFault_eq_some_iff]
  constructor
  · rintro (⟨lacks, rfl⟩ | ⟨bound, lacks, rfl⟩ | ⟨bound, attached, detail, wrong, rfl⟩)
    · exact .params lacks
    · exact .mixins bound lacks
    · obtain ⟨wanted, declared, ⟨lacks, rfl⟩ | ⟨provided, parser, misfit, rfl⟩⟩ := wrong
      · exact .noParser bound attached wanted declared lacks
      · exact .body bound attached wanted provided declared parser misfit
  · intro fault
    cases fault with
    | params lacks => exact Or.inl ⟨lacks, rfl⟩
    | mixins bound lacks => exact Or.inr (Or.inl ⟨bound, lacks, rfl⟩)
    | noParser bound attached wanted declared lacks =>
      exact Or.inr (Or.inr ⟨bound, attached, _, ⟨wanted, declared, Or.inl ⟨lacks, rfl⟩⟩, rfl⟩)
    | body bound attached wanted provided declared parser misfit =>
      exact Or.inr (Or.inr ⟨bound, attached, _,
        ⟨wanted, declared, Or.inr ⟨provided, parser, misfit, rfl⟩⟩, rfl⟩)

end Leaf

namespace Site

theorem check_below (hop : Hop) (outer : Scope) (site : Site) :
    (site.below hop).check outer = site.check (hop.extend outer) := by
  cases site <;> rfl

theorem check_eq_ok_iff {site : Site} : site.check .root = .ok () ↔ site.Sound := by
  cases site with
  | endpoint leaf => exact Leaf.check_eq_ok_iff
  | pattern source =>
    rw [check, Sound]
    cases Pattern.compile source <;> simp

theorem check_eq_error_iff {site : Site} {e : RouteError} :
    site.check .root = .error e ↔ site.Fault e := by
  cases site with
  | endpoint leaf =>
    exact Leaf.check_eq_error_iff.trans ⟨.endpoint, fun | .endpoint wrong => wrong⟩
  | pattern source =>
    rw [check]
    constructor
    · intro failed
      cases compiled : Pattern.compile source with
      | ok p => simp [compiled] at failed
      | error cause =>
        rw [compiled] at failed
        cases failed
        exact .pattern compiled
    · rintro ⟨fails⟩
      rw [fails]

end Site

namespace RouteTree

theorem walk_below (hop : Hop) (sites : List Site) (outer : Scope) :
    forM (sites.map (Site.below hop)) (Site.check outer) =
      forM sites (Site.check (hop.extend outer)) := by
  rw [List.forM_map]
  simp only [Site.check_below]

/-- The check of a tree is a walk over its sites. -/
theorem check_eq_walk (t : RouteTree) (outer : Scope) :
    t.check outer = forM t.sites (Site.check outer) := by
  induction t using RouteTree.induct generalizing outer with
  | endpoint e =>
    rw [sites, List.forM_cons]
    exact bind_pure_unit.symm
  | bind pattern nested ih =>
    rw [check, sites, List.forM_cons, walk_below, ← ih, Site.check, Hop.extend]
    cases Pattern.compile pattern <;> rfl
  | group members ih =>
    rw [check, sites]
    induction members with
    | nil => rfl
    | cons t rest rec =>
      rw [checkAll, sitesIn, List.forM_append, ← ih t List.mem_cons_self,
        ← rec fun t listed => ih t (List.mem_cons_of_mem _ listed)]
      cases check t outer <;> rfl
  | null => rfl
  | layer l nested ih => rw [check, sites, walk_below, ← ih, Hop.extend]

end RouteTree

end RequestRouter
