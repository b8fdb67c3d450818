import RequestRouter.Exchange.Act
import RequestRouter.Tree.Error
import RequestRouter.Tree.Scope

/-!
# Endpoints

The leaves of a route tree: a method, the fields that the handler reads, and the handler. The
fields are checked against the scope when the tree is built, so that a handler finds what it
declares.
-/

namespace RequestRouter

abbrev Handler := RequestState → Draft → Act (Except HandlerError Unit)

/-- Sends a response; that it was not sent is the handler's error. -/
def respond (r : Response) : Act (Except HandlerError Unit) := do
  match ← Act.offer r with
  | .ok () => return .ok ()
  | .error e => return .error (.ofChain e.chain)

/-- What an endpoint declares: its method, and the fields it reads. -/
structure Declaration where
  method : Method
  params : Schema := .empty
  body : Option Schema := none
  mixins : Table Schema := .empty
  /-- The policy of its parameter conversion; the request's if none. -/
  policy : Option ConversionPolicy := none

structure Endpoint where
  declares : Declaration
  handler : Handler

structure Visit where
  endpoint : Endpoint
  /-- The request as the handler sees it. -/
  request : RequestState
  draft : Draft

inductive Event where
  | entered (visit : Visit)
  | counted (meter : String) (outcome : CallOutcome)

/-- What a node of the tree does; its value is whether the request was handled. -/
abbrev Handled := Course Event (Except RouteError Bool)

namespace Endpoint

def ofHandler (method : Method) (handler : Handler) : Endpoint :=
  ⟨{ method }, handler⟩

def requiresParams (e : Endpoint) (schema : Schema) : Endpoint :=
  { e with declares := { e.declares with params := e.declares.params.union schema } }

def requiresBody (e : Endpoint) (schema : Schema) : Endpoint :=
  { e with declares := { e.declares with body := some schema } }

/-- Declares a mixin, in the place of one with the same name. -/
def requiresMixin (e : Endpoint) (name : String) (schema : Schema) : Endpoint :=
  { e with declares := { e.declares with mixins := e.declares.mixins.insert name schema } }

def withPolicy (e : Endpoint) (policy : ConversionPolicy) : Endpoint :=
  { e with declares := { e.declares with policy := some policy } }

/-- The name of an endpoint in errors: its method and the patterns above it. -/
def routeName (d : Declaration) (scope : Scope) : String :=
  d.method.name ++ " " ++ if scope.path.isEmpty then "/" else scope.path

/-- What a declared mixin lacks: itself, or fields of it. -/
def missingOfMixin (scope : Scope) (name : String) (wanted : Schema) : List String :=
  match scope.mixins.get? name with
  | none => [name]
  | some provided => (wanted.subtract provided).names.map fun field => name ++ "." ++ field

/-- Every declared mixin, or field of a mixin, that the scope lacks. -/
def missingMixins (d : Declaration) (scope : Scope) : List String :=
  d.mixins.entries.flatMap fun (name, wanted) => missingOfMixin scope name wanted

/-- Whether a parser that produces `provided` serves an endpoint that reads `wanted`. -/
def bodyFits (wanted provided : Schema) : Bool :=
  (wanted.subtract provided).isEmpty && (wanted.kindConflicts provided).isEmpty

def bodyFault (d : Declaration) (scope : Scope) : Option String :=
  match d.body, scope.body with
  | none, _ => none
  | some _, none => some "no body parser above this endpoint"
  | some wanted, some provided =>
    if bodyFits wanted provided then none
    else some s!"expects {wanted.text}, parser produces {provided.text}"

/-- The first unmet requirement: parameters, then mixins, then the body. -/
def check (d : Declaration) (scope : Scope) : Except RouteError Unit :=
  let missing := d.params.subtract scope.params
  if !missing.isEmpty then .error (.missingParams (routeName d scope) missing.names)
  else if !(missingMixins d scope).isEmpty then
    .error (.missingMixins (routeName d scope) (missingMixins d scope))
  else match bodyFault d scope with
    | some detail => .error (.bodyMismatch (routeName d scope) detail)
    | none => .ok ()

/-- The request with its parameters in the declared shape. Parameters outside of it become
extensions; without a declared shape they stay as they are. -/
def prepare (d : Declaration) (s : RequestState) : Except RecordError RequestState :=
  if d.params.isEmpty then .ok s
  else (s.params.convert d.params (d.policy.getD s.policy)).map fun c =>
    (s.replaceParams c.record).withExtensions c.extras

/-- Runs the handler. A request that it ends without an error counts as handled. -/
def invoke (e : Endpoint) (s : RequestState) (draft : Draft) : Handled :=
  match prepare e.declares s with
  | .error cause => .done (.error (.record cause))
  | .ok s => .note (.entered ⟨e, s, draft⟩) do
    match ← (e.handler s draft).lift with
    | .ok () => return .ok true
    | .error cause => return .error (.handler cause)

end Endpoint

end RequestRouter
