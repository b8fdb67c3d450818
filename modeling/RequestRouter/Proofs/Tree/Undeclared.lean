import RequestRouter.Proofs.Tree.Arrival
import RequestRouter.Proofs.Tree.BodyParser

/-!
# Fields outside of the schemas

A cookie parser, a body parser and the endpoint each put the fields that their schema lacks among
the extensions. On the way to an endpoint these add up: of a name that several of them leave
undeclared, the extensions have the value that the innermost one has. The fields that a schema does
declare are in the record of the innermost parser of their kind.
-/

namespace RequestRouter

/-- Of the records that have the name the last one counts. -/
theorem Record.get?_unionAll (base : Record) (sources : List Record) (name : String) :
    (base.unionAll sources).get? name =
      (sources.reverse.findSome? (·.get? name)).or (base.get? name) := by
  induction sources generalizing base with
  | nil => rfl
  | cons own rest ih =>
    show (Record.unionAll (base.union own) rest).get? name = _
    rw [ih, Table.get?_union, List.reverse_cons, List.findSome?_append, Option.or_assoc]
    cases held : own.get? name <;> simp [held]

namespace Layer

/-- The fields of a request that the layer reads and its schema lacks. -/
def undeclared? (request : Request) : Layer → Option Record
  | .cookies (some schema) => some ((Cookie.parse request.headers).subtract schema)
  | .jsonBody schema _ => (bodyFields? request.body).map fun fields => fields.subtract schema
  | _ => none

/-- A layer adds what its schema lacks to the extensions. -/
theorem extensions_of_pass {l : Layer} {s s' : RequestState} (h : l.pass s = some s') :
    s'.extensions = Record.unionAll s.extensions (l.undeclared? s.request).toList := by
  cases l with
  | jsonBody schema policy =>
    obtain ⟨fields, read, rfl⟩ := pass_jsonBody_fields h
    rw [undeclared?, read]
    rfl
  | cookies schema =>
    cases h
    cases schema <;> rfl
  | notFound | serverFault | profile | tracing | metrics _ | custom _ =>
    cases h
    rfl

def Attached (schema : Option Schema) (given held : Record) : Prop :=
  match schema with
  | none => held = given
  | some schema => given.Filled schema held

theorem attached_of_pass {schema : Option Schema} {s s' : RequestState}
    (h : (cookies schema).pass s = some s') :
    ∃ held, s'.cookies? = some held ∧ Attached schema (Cookie.parse s.request.headers) held := by
  have attached (held : Record) : (s.mixins.insert cookiesMixin held).get? cookiesMixin = some held :=
    Table.get?_insert.trans (if_pos rfl)
  cases h
  cases schema with
  | none => exact ⟨_, attached _, rfl⟩
  | some schema => exact ⟨_, attached _, Record.filled_fit _ schema⟩

/-- Only a cookie parser touches the mixins. -/
theorem mixins_of_pass {l : Layer} {s s' : RequestState} (passed : l.pass s = some s')
    (notParser : ∀ schema, l ≠ .cookies schema) : s'.mixins = s.mixins := by
  cases l with
  | cookies schema => exact absurd rfl (notParser schema)
  | jsonBody schema policy =>
    obtain ⟨c, -, rfl⟩ := pass_jsonBody.1 passed
    rfl
  | notFound | serverFault | profile | tracing | metrics _ | custom _ =>
    cases passed
    rfl

end Layer

def Declaration.undeclared? (d : Declaration) (bound : Record) : Option Record :=
  if d.params.isEmpty then none else some (bound.subtract d.params)

/-- Preparing a request adds the parameters that are not declared to the extensions, and touches
neither the body nor the mixins. -/
theorem Endpoint.extensions_of_prepare {d : Declaration} {s prepared : RequestState}
    (h : prepare d s = .ok prepared) : prepared.body = s.body ∧ prepared.mixins = s.mixins ∧
      prepared.extensions = Record.unionAll s.extensions (d.undeclared? s.params).toList := by
  unfold Declaration.undeclared?
  obtain ⟨none, rfl⟩ | ⟨some, c, converted, rfl⟩ := prepare_cases h
  · rw [if_pos (Table.isEmpty_iff.2 none)]
    exact ⟨rfl, rfl, rfl⟩
  · rw [if_neg fun none => some (Table.isEmpty_iff.1 none), Record.eq_fit_of_convert converted]
    exact ⟨rfl, rfl, rfl⟩

namespace Leaf

variable {leaf : Leaf} {s arriving : RequestState}

/-- The extensions of a request that arrives are those of the layers on the way. -/
theorem extensions_of_arrive (h : leaf.arrive s = some arriving) : arriving.extensions =
    Record.unionAll s.extensions (leaf.layers.filterMap (Layer.undeclared? s.request)) := by
  induction leaf using Leaf.induct generalizing s with
  | endpoint e =>
    cases h
    rfl
  | below hop leaf ih =>
    obtain ⟨s', passed, further⟩ := arrive_below_eq_some_iff.1 h
    rw [ih further, Hop.request_of_pass passed]
    cases hop with
    | pattern source =>
      obtain ⟨captures, n, rfl⟩ := RouteTree.eq_of_bindPattern passed
      rfl
    | layer l =>
      rw [Layer.extensions_of_pass passed, layers_below_layer, List.filterMap_cons]
      cases l.undeclared? s.request <;> rfl

/-- Below its last cookie parser, a request carries what the parser made of its cookies. -/
theorem attached_of_arrive (h : leaf.arrive s = some arriving) {outer inner : List Layer}
    {schema : Option Schema} (layers : leaf.layers = outer ++ .cookies schema :: inner)
    (last : ∀ schema, .cookies schema ∉ inner) :
    ∃ held, arriving.cookies? = some held ∧
      Layer.Attached schema (Cookie.parse s.request.headers) held := by
  obtain ⟨rest, before, after, rfl, request, passed, further⟩ := passed_of_arrive h layers
  have kept : arriving.mixins = after.mixins := by
    refine kept_of_arrive further (fun _ _ _ => rfl) fun l listed s s' passed => ?_
    exact Layer.mixins_of_pass passed fun schema parser => last schema (parser ▸ listed)
  rw [RequestState.cookies?, RequestState.mixin?, kept, ← request]
  exact Layer.attached_of_pass passed

/-- Below its last body parser, a request carries the fields that the parser declares. -/
theorem filled_of_arrive (h : leaf.arrive s = some arriving) {outer inner : List Layer}
    {schema : Schema} {policy : ConversionPolicy}
    (layers : leaf.layers = outer ++ .jsonBody schema policy :: inner)
    (last : ∀ schema policy, .jsonBody schema policy ∉ inner) :
    ∃ fields held, Layer.bodyFields? s.request.body = some fields ∧
      arriving.body = .structured held ∧ fields.Filled schema held := by
  obtain ⟨c, parsed, body⟩ := body_of_arrive h layers last
  obtain ⟨fields, read, converted⟩ := Layer.exists_fields_of_readBody parsed
  obtain rfl := Record.eq_fit_of_convert converted
  exact ⟨fields, _, read, body, fields.filled_fit schema⟩

/-- The body of a request that arrives has been read by every body parser on the way. -/
theorem bodyFields?_of_arrive (h : leaf.arrive s = some arriving) {schema : Schema}
    {policy : ConversionPolicy} (onWay : .jsonBody schema policy ∈ leaf.layers) :
    ∃ fields, Layer.bodyFields? s.request.body = some fields := by
  obtain ⟨outer, inner, layers⟩ := List.append_of_mem onWay
  obtain ⟨rest, before, after, -, request, passed, -⟩ := passed_of_arrive h layers
  obtain ⟨fields, read, -⟩ := Layer.pass_jsonBody_fields passed
  rw [request] at read
  exact ⟨fields, read⟩

/-- All that layers and endpoint leave undeclared, outermost first, where the patterns have bound
`bound`. -/
def undeclared (leaf : Leaf) (request : Request) (bound : Record) : List Record :=
  leaf.layers.filterMap (Layer.undeclared? request) ++
    (leaf.endpoint.declares.undeclared? bound).toList

end Leaf

end RequestRouter
