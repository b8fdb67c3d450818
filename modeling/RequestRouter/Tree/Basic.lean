import RequestRouter.Tree.Layer

/-!
# Route trees

A route tree is made of endpoints, patterns in front of a node, groups of alternatives and
layers. A node accepts a method and a path or does not; it is invoked with a request and handles
it or fails; when a tree is built, its nodes are checked against what stands above them and
describe the endpoints below them.
-/

namespace RequestRouter

/-- A node with all that stands below it. -/
inductive RouteTree where
  | endpoint (e : Endpoint)
  /-- Takes the start of the path that the pattern matches. -/
  | bind (pattern : String) (nested : RouteTree)
  /-- Alternatives; the first that accepts a request gets it. -/
  | group (members : List RouteTree)
  /-- Accepts nothing. -/
  | null
  | layer (l : Layer) (nested : RouteTree)

instance : Inhabited RouteTree := ⟨.null⟩

/-- An endpoint as a route table lists it. -/
structure RouteDescription where
  method : Method
  /-- The patterns above it, one after another. -/
  path : String
  params : List String
deriving Repr, DecidableEq

/-- The method in a column of seven characters, and the path. -/
def RouteDescription.text (d : RouteDescription) : String :=
  let name := d.method.name
  let padding := String.ofList (List.replicate (7 - name.toList.length) ' ')
  name ++ padding ++ " " ++ if d.path.isEmpty then "/" else d.path

namespace RouteTree

/-- What a pattern leaves of a path that it matches. -/
def leftBy (pattern : String) (path : List Char) : Option (List Char) :=
  match Pattern.compile pattern with
  | .ok p => (Pattern.findMatch p.tokens path).map Prod.snd
  | .error _ => none

mutual

def accepts : RouteTree → Method → List Char → Bool
  | .endpoint e, method, path => method == e.declares.method && path.isEmpty
  | .bind pattern nested, method, path =>
    match leftBy pattern path with
    | some left => accepts nested method left
    | none => false
  | .group members, method, path => acceptsAny members method path
  | .null, _, _ => false
  | .layer _ nested, method, path => accepts nested method path

def acceptsAny : List RouteTree → Method → List Char → Bool
  | [], _, _ => false
  | t :: rest, method, path => accepts t method path || acceptsAny rest method path

end

/-- The error of a node that was invoked with a request it does not accept. -/
def unmatched (s : RequestState) : Handled :=
  .done (.error (.unmatched s.remaining))

/-- The request past a pattern, with its captures bound, if the pattern matches. -/
def bindPattern (pattern : String) (s : RequestState) : Option RequestState :=
  match Pattern.compile pattern with
  | .ok p => (p.matchPrefix s.remaining).map fun m => (s.withParams m.captures).consume m.consumed
  | .error _ => none

mutual

/-- Runs the node for a request that it accepts. -/
def invoke : RouteTree → RequestState → Draft → Handled
  | .endpoint e, s, draft => e.invoke s draft
  | .bind pattern nested, s, draft =>
    match bindPattern pattern s with
    | some s' => invoke nested s' draft
    | none => unmatched s
  | .group members, s, draft => invokeFirst members s draft
  | .null, _, _ => .done (.ok false)
  | .layer l nested, s, draft =>
    l.call
      { accepts := fun method path => accepts nested method path.toList
        run := fun s draft => invoke nested s draft } s draft

def invokeFirst : List RouteTree → RequestState → Draft → Handled
  | [], s, _ => unmatched s
  | t :: rest, s, draft =>
    if accepts t s.method s.remaining.toList then invoke t s draft else invokeFirst rest s draft

end

def answersUnmatched : RouteTree → Bool
  | .layer l nested => l.answersUnmatched || answersUnmatched nested
  | _ => false

mutual

/-- The first requirement in the tree that what stands above it does not meet. -/
def check : RouteTree → Scope → Except RouteError Unit
  | .endpoint e, scope => Endpoint.check e.declares scope
  | .bind pattern nested, scope =>
    match Pattern.compile pattern with
    | .ok p => check nested (scope.nest p)
    | .error cause => .error (.pattern cause)
  | .group members, scope => checkAll members scope
  | .null, _ => .ok ()
  | .layer l nested, scope => check nested (l.scope scope)

def checkAll : List RouteTree → Scope → Except RouteError Unit
  | [], _ => .ok ()
  | t :: rest, scope =>
    match check t scope with
    | .ok () => checkAll rest scope
    | .error e => .error e

end

mutual

/-- The endpoints of the tree in order of precedence, below the patterns of `path`. -/
def describe : RouteTree → (path : String) → List RouteDescription
  | .endpoint e, path => [⟨e.declares.method, path, e.declares.params.names⟩]
  | .bind pattern nested, path => describe nested (path ++ pattern)
  | .group members, path => describeAll members path
  | .null, _ => []
  | .layer _ nested, path => describe nested path

def describeAll : List RouteTree → (path : String) → List RouteDescription
  | [], _ => []
  | t :: rest, path => describe t path ++ describeAll rest path

end

def ofHandler (method : Method) (handler : Handler) : RouteTree :=
  .endpoint (.ofHandler method handler)

def behind (t : RouteTree) (pattern : String) : RouteTree :=
  .bind pattern t

def wrap (t : RouteTree) (l : Layer) : RouteTree :=
  .layer l t

end RouteTree

end RequestRouter
