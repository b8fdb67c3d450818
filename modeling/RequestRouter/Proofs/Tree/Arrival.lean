import RequestRouter.Proofs.Record.Conversion
import RequestRouter.Proofs.Request.Path
import RequestRouter.Proofs.Tree.Selection

/-!
# Arrival at an endpoint

What a request is when it comes to an endpoint. The patterns on the way take the path piece by
piece, and each binds its captures over those of the patterns before it; layers change neither the
path nor the parameters. The endpoint keeps the parameters that it declares, and what it does not
declare becomes extensions.
-/

namespace RequestRouter

namespace Pattern

def capturesOf (source path : String) : Option Record :=
  match compile source with
  | .ok p => (p.matchPrefix path).map PrefixMatch.captures
  | .error _ => none

/-- What the patterns capture, each at the start of what the one before left. -/
def capturesAlong : List String → String → Option (List Record)
  | [], _ => some []
  | source :: rest, path => do
    let own ← capturesOf source path
    let left ← leftOf source path
    let inner ← capturesAlong rest left
    return own :: inner

end Pattern

/-- The parameters under captures, of which each replaces those before it on a shared name. -/
def Record.unionAll (params : Record) (captures : List Record) : Record :=
  captures.foldl Table.union params

/-- The request came past patterns that captured `captures`. -/
structure RequestState.Carried (patterns : List String) (captures : List Record)
    (s s' : RequestState) : Prop where
  request_eq : s'.request = s.request
  policy_eq : s'.policy = s.policy
  path_eq : s'.consumed ++ s'.remaining = s.consumed ++ s.remaining
  left_eq : patterns.foldlM (fun path source => Pattern.leftOf source path) s.remaining =
    some s'.remaining
  captures_eq : Pattern.capturesAlong patterns s.remaining = some captures
  params_eq : s'.params = s.params.unionAll captures

/-- A layer leaves the parameters, the policy and the path as they are. -/
theorem Layer.bindings_of_pass {l : Layer} {s s' : RequestState} (h : l.pass s = some s') :
    s'.policy = s.policy ∧ s'.consumed = s.consumed ∧ s'.params = s.params := by
  obtain ⟨body, mixins, extensions, rfl⟩ := eq_of_pass h
  exact ⟨rfl, rfl, rfl⟩

/-- Only a body parser touches the body. -/
theorem Layer.body_of_pass {l : Layer} {s s' : RequestState} (passed : l.pass s = some s')
    (notParser : ∀ schema policy, l ≠ .jsonBody schema policy) : s'.body = s.body := by
  cases l with
  | jsonBody schema policy => exact absurd rfl (notParser schema policy)
  | cookies schema =>
    cases passed
    cases schema <;> rfl
  | notFound | serverFault | profile | tracing | metrics _ | custom _ =>
    cases passed
    rfl

/-- A pattern that matches binds its captures and moves its match to the part that is consumed. -/
theorem RouteTree.bindings_of_bindPattern {source : String} {s s' : RequestState}
    (h : bindPattern source s = some s') :
    s'.policy = s.policy ∧ s'.consumed ++ s'.remaining = s.consumed ++ s.remaining ∧
      ∃ own, Pattern.capturesOf source s.remaining = some own ∧ s'.params = s.params.union own := by
  unfold bindPattern at h
  cases compiled : Pattern.compile source with
  | error _ => simp [compiled] at h
  | ok p =>
    rw [compiled] at h
    obtain ⟨m, found, rfl⟩ := Option.map_eq_some_iff.1 h
    refine ⟨rfl, RequestState.path_consume _ _, m.captures, ?_, rfl⟩
    simp only [Pattern.capturesOf, compiled, found, Option.map_some]

namespace RequestState.Carried

variable {patterns : List String} {captures : List Record} {s s' arriving : RequestState}

/-- A layer in front adds nothing. -/
theorem below_layer (h : Carried patterns captures s' arriving) {l : Layer}
    (passed : l.pass s = some s') : Carried patterns captures s arriving := by
  obtain ⟨request, remaining⟩ := Layer.pass_frame passed
  obtain ⟨policy, consumed, params⟩ := Layer.bindings_of_pass passed
  refine ⟨h.request_eq.trans request, h.policy_eq.trans policy, ?_, ?_, ?_, ?_⟩
  · rw [h.path_eq, consumed, remaining]
  · rw [← remaining]
    exact h.left_eq
  · rw [← remaining]
    exact h.captures_eq
  · rw [h.params_eq, params]

/-- A pattern in front adds its captures, below those of the patterns that follow it. -/
theorem below_pattern (h : Carried patterns captures s' arriving) {source : String}
    (passed : RouteTree.bindPattern source s = some s') :
    ∃ own, Carried (source :: patterns) (own :: captures) s arriving := by
  have request := RouteTree.request_of_bindPattern passed
  obtain ⟨policy, path, own, captured, params⟩ := RouteTree.bindings_of_bindPattern passed
  have left : Pattern.leftOf source s.remaining = some s'.remaining := by
    rw [← RouteTree.remaining_bindPattern, passed, Option.map_some]
  refine ⟨own, h.request_eq.trans request, h.policy_eq.trans policy, h.path_eq.trans path,
    ?_, ?_, ?_⟩
  · rw [List.foldlM_cons, left]
    exact h.left_eq
  · rw [Pattern.capturesAlong, captured, left]
    simp [h.captures_eq]
  · rw [h.params_eq, params]
    rfl

end RequestState.Carried

namespace Leaf

/-- A request that arrives at a leaf has come past the leaf's patterns. -/
theorem carried_of_arrive {leaf : Leaf} {s arriving : RequestState}
    (h : leaf.arrive s = some arriving) :
    ∃ captures, RequestState.Carried leaf.patterns captures s arriving := by
  induction leaf using Leaf.induct generalizing s with
  | endpoint e =>
    cases h
    exact ⟨[], rfl, rfl, rfl, rfl, rfl, rfl⟩
  | below hop leaf ih =>
    obtain ⟨s', passed, further⟩ := arrive_below_eq_some_iff.1 h
    obtain ⟨captures, carried⟩ := ih further
    cases hop with
    | layer l => exact ⟨captures, carried.below_layer passed⟩
    | pattern source =>
      obtain ⟨own, whole⟩ := carried.below_pattern passed
      exact ⟨own :: captures, whole⟩

/-- What patterns keep, and every layer on the way, the arriving request has as at the root. -/
theorem kept_of_arrive {α : Type} {view : RequestState → α} {leaf : Leaf}
    {s arriving : RequestState} (h : leaf.arrive s = some arriving)
    (bound : ∀ s captures n, view ((s.withParams captures).consume n) = view s)
    (passed : ∀ l ∈ leaf.layers, ∀ s s', l.pass s = some s' → view s' = view s) :
    view arriving = view s := by
  induction leaf using Leaf.induct generalizing s with
  | endpoint e =>
    cases h
    rfl
  | below hop leaf ih =>
    obtain ⟨s', first, further⟩ := arrive_below_eq_some_iff.1 h
    cases hop with
    | pattern source =>
      obtain ⟨captures, n, rfl⟩ := RouteTree.eq_of_bindPattern first
      exact (ih further passed).trans (bound s captures n)
    | layer l =>
      obtain ⟨here, there⟩ := List.forall_mem_cons.1 passed
      exact (ih further there).trans (here s s' first)

/-- A request that arrives has been handed on by every layer on the way, and arrives from there. -/
theorem passed_of_arrive {leaf : Leaf} {s arriving : RequestState}
    (h : leaf.arrive s = some arriving) {outer inner : List Layer} {l : Layer}
    (layers : leaf.layers = outer ++ l :: inner) :
    ∃ (rest : Leaf) (before after : RequestState), rest.layers = inner ∧
      before.request = s.request ∧ l.pass before = some after ∧
      rest.arrive after = some arriving := by
  induction leaf using Leaf.induct generalizing s outer with
  | endpoint e => simp [Leaf.layers] at layers
  | below hop leaf ih =>
    obtain ⟨s', passed, further⟩ := arrive_below_eq_some_iff.1 h
    rw [← Hop.request_of_pass passed]
    cases hop with
    | pattern source => exact ih further layers
    | layer l' =>
      rw [layers_below_layer] at layers
      cases outer with
      | cons first outer => exact ih further (List.cons.inj layers).2
      | nil =>
        obtain ⟨rfl, rfl⟩ := List.cons.inj layers
        exact ⟨leaf, s, s', rfl, (Hop.request_of_pass passed).symm, passed, further⟩

theorem body_of_arrive_unparsed {leaf : Leaf} {s arriving : RequestState}
    (arrives : leaf.arrive s = some arriving)
    (noParser : ∀ schema policy, .jsonBody schema policy ∉ leaf.layers) :
    arriving.body = s.body := by
  refine kept_of_arrive arrives (fun _ _ _ => rfl) fun l listed s s' passed => ?_
  exact Layer.body_of_pass passed fun schema policy parser =>
    noParser schema policy (parser ▸ listed)

/-- Below its last body parser, a request carries what the parser made of its body. -/
theorem body_of_arrive {leaf : Leaf} {s arriving : RequestState}
    (arrives : leaf.arrive s = some arriving) {outer inner : List Layer} {schema : Schema}
    {policy : ConversionPolicy} (layers : leaf.layers = outer ++ .jsonBody schema policy :: inner)
    (last : ∀ schema policy, .jsonBody schema policy ∉ inner) :
    ∃ c, Layer.readBody schema policy s.request.body = .ok c ∧
      arriving.body = .structured c.record := by
  obtain ⟨rest, before, after, rfl, request, passed, further⟩ := passed_of_arrive arrives layers
  rw [body_of_arrive_unparsed further last, ← request]
  obtain ⟨c, parsed, rfl⟩ := Layer.pass_jsonBody.1 passed
  exact ⟨c, parsed, rfl⟩

/-- A request that a leaf accepts and that arrives there has no path left. -/
theorem remaining_of_arrive {leaf : Leaf} {s arriving : RequestState} {method : Method}
    (accepts : leaf.Accepts method s.remaining) (h : leaf.arrive s = some arriving) :
    arriving.remaining = "" := by
  obtain ⟨captures, carried⟩ := carried_of_arrive h
  exact Option.some.inj (carried.left_eq.symm.trans accepts.2)

end Leaf

/-- What a handler is shown of the parameters that the patterns above it bound. -/
structure Endpoint.Shows (d : Declaration) (policy : ConversionPolicy) (bound : Record)
    (shown : RequestState) : Prop where
  /-- An endpoint without declared parameters gets them as they are. -/
  as_bound : d.params.names = [] → shown.params = bound
  /-- A declared one has the declared kind, or that kind's default where its value does not coerce.
  The strict policy admits no such value. -/
  declared : ∀ name kind v, d.params.get? name = some kind → bound.get? name = some v →
    shown.params.get? name = some ((kind.coerce v).getD kind.defaultValue) ∧
      (policy = .strict → (kind.coerce v).isSome = true)
  /-- One that is not declared, beside those that are, becomes an extension. -/
  undeclared : d.params.names ≠ [] → ∀ name v, d.params.get? name = none →
    bound.get? name = some v → shown.extensions.get? name = some v

namespace Endpoint

/-- Preparing a request leaves the request and its path as they are. -/
theorem prepare_frame {d : Declaration} {s prepared : RequestState}
    (h : prepare d s = .ok prepared) : prepared.request = s.request ∧
      prepared.consumed = s.consumed ∧ prepared.remaining = s.remaining := by
  obtain ⟨-, rfl⟩ | ⟨-, c, -, rfl⟩ := prepare_cases h <;> exact ⟨rfl, rfl, rfl⟩

theorem exists_prepare_of_lenient {d : Declaration} (lenient : d.policy = some .lenient)
    (s : RequestState) : ∃ prepared, prepare d s = .ok prepared := by
  unfold prepare
  split
  · exact ⟨_, rfl⟩
  · rw [lenient]
    exact ⟨_, rfl⟩

theorem shows_of_prepare {d : Declaration} {s prepared : RequestState}
    (h : prepare d s = .ok prepared) :
    Shows d (d.policy.getD s.policy) s.params prepared := by
  obtain ⟨none, rfl⟩ | ⟨some, c, converted, rfl⟩ := prepare_cases h
  · refine ⟨fun _ => rfl, fun name kind v declared _ => ?_, fun some => absurd none some⟩
    have listed : name ∈ d.params.names := Table.mem_names_iff.2 ⟨kind, declared⟩
    rw [none] at listed
    cases listed
  · refine ⟨fun none => absurd none some, fun name kind v declared given => ⟨?_, ?_⟩, ?_⟩
    · show c.record.get? name = _
      rw [Record.eq_fit_of_convert converted, Record.fit_get?, declared, given]
      rfl
    · intro strict
      rw [strict] at converted
      rw [Option.isSome_iff_ne_none]
      exact fun refuses => Record.not_unfit_of_convert converted name kind
        ⟨declared, v, given, refuses⟩
    · intro _ name v undeclared given
      show (s.extensions.union c.extras).get? name = _
      rw [Record.eq_fit_of_convert converted, Table.get?_union]
      show ((s.params.subtract d.params).get? name).or _ = _
      rw [Table.get?_subtract, undeclared, given]
      rfl

end Endpoint

/-- A leaf whose endpoint converts leniently is entered, unless a body parser keeps the request. -/
theorem Leaf.exists_entered_of_lenient {leaf : Leaf} {s : RequestState}
    (accepts : leaf.Accepts s.method s.remaining)
    (clear : ∀ l ∈ leaf.layers, ¬ l.Rejects s.request.body)
    (lenient : leaf.endpoint.declares.policy = some .lenient) (draft : Draft) :
    ∃ shown, leaf.entered s draft = [⟨leaf.endpoint, shown, draft⟩] := by
  obtain ⟨arriving, arrives⟩ := exists_arrive accepts clear
  obtain ⟨shown, prepared⟩ := Endpoint.exists_prepare_of_lenient lenient arriving
  refine ⟨shown, ?_⟩
  rw [entered, arrives]
  simp only [Endpoint.entered, prepared]

end RequestRouter
