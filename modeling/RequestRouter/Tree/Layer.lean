import RequestRouter.Json.Parser
import RequestRouter.Tree.Endpoint

/-!
# Layers

A layer stands around a node: it can answer by itself, extend the request before the node sees
it, or watch how the node ends.
-/

namespace RequestRouter

/-- The node that a layer stands around. -/
structure Next where
  accepts : Method → String → Bool
  run : RequestState → Draft → Handled

abbrev Stage := Next → RequestState → Draft → Handled

inductive Layer where
  /-- Answers 404 where the node does not accept the request. -/
  | notFound
  /-- Contains errors and crashes of the node and answers 500. -/
  | serverFault
  /-- Watches how long the node takes. -/
  | profile
  /-- Follows the request through the node. -/
  | tracing
  /-- Counts how the node ends. -/
  | metrics (meter : String)
  /-- Parses the body as a JSON object of the schema. -/
  | jsonBody (schema : Schema) (policy : ConversionPolicy)
  /-- Attaches the cookies, all of them or those of the schema. -/
  | cookies (schema : Option Schema)
  | custom (stage : Stage)

def serverFaultBody : String := "Internal server error!"

/-- Sends a response; the request counts as handled. -/
def answer (r : Response) : Handled := do
  match ← Act.offer r with
  | .ok () => return .ok true
  | .error e => return .error (.response e)

def RouteError.ofCrash (c : Crash) : RouteError :=
  .crashed c.message

namespace Layer

/-- The node's result, with a crash as an error. -/
def outcomeOf : Except Crash (Except RouteError Bool) → Except RouteError Bool
  | .ok result => result
  | .error c => .error (.ofCrash c)

/-- Answers 404 for a request that the node does not accept. -/
def runNotFound (next : Next) (s : RequestState) (draft : Draft) : Handled :=
  if next.accepts s.method s.remaining then next.run s draft
  else answer ((draft.withStatus 404).complete ("Not found: " ++ s.path))

/-- Sends the 500 with the headers of `draft`, unless a response was sent. The answer of the sink
does not matter. -/
def sendFault (draft : Draft) : Course Event Unit :=
  .committed fun
    | some _ => .done ()
    | none => .send ((draft.withStatus 500).complete serverFaultBody) fun _ => .done ()

/-- Contains a failure of the node: the request counts as not handled. -/
def runServerFault (next : Next) (s : RequestState) (draft : Draft) : Handled := do
  match outcomeOf (← (next.run s draft).attempt) with
  | .ok handled => return .ok handled
  | .error _ =>
    sendFault draft
    return .ok false

def callOutcome : Except RouteError Bool → CallOutcome
  | .ok true => .handled
  | .ok false => .unhandled
  | .error _ => .failed

/-- Counts the node's result. A crash passes by uncounted. -/
def runMetrics (meter : String) (next : Next) (s : RequestState) (draft : Draft) : Handled := do
  let result ← next.run s draft
  .note (.counted meter (callOutcome result)) (.done result)

/-- The JSON value of a body. A body of blank bytes is read as an empty object. -/
def bodyValue (raw : List UInt8) : Except Json.ParseError Json :=
  if raw.all isBlankByte then .ok (.object []) else Json.parse raw

/-- The body as a record of the schema, with the members outside of it, or the reason why it is
rejected. -/
def readBody (schema : Schema) (policy : ConversionPolicy) (raw : List UInt8) :
    Except String Conversion := do
  let v ← (bodyValue raw).mapError fun e => "Invalid JSON body: " ++ e.message
  let fields ← (Record.ofJson v).mapError fun e => "Invalid JSON body: " ++ e.message
  (fields.convert schema policy).mapError fun e => "Invalid request body: " ++ e.message

def runJsonBody (schema : Schema) (policy : ConversionPolicy) (next : Next) (s : RequestState)
    (draft : Draft) : Handled :=
  match readBody schema policy s.request.body with
  | .ok c => next.run ((s.withBody (.structured c.record)).withExtensions c.extras) draft
  | .error reason => answer ((draft.withStatus 400).completeText reason)

/-- The request with its cookies attached. Cookies that the schema lacks become extensions. -/
def attachCookies (schema : Option Schema) (s : RequestState) : RequestState :=
  let found := Cookie.parse s.request.headers
  match schema with
  | none => s.withMixin cookiesMixin found
  | some schema =>
    let c := found.fit schema
    (s.withMixin cookiesMixin c.record).withExtensions c.extras

def call : Layer → Stage
  | .notFound => runNotFound
  | .serverFault => runServerFault
  | .profile => Next.run
  | .tracing => Next.run
  | .metrics meter => runMetrics meter
  | .jsonBody schema policy => runJsonBody schema policy
  | .cookies schema => fun next s draft => next.run (attachCookies schema s) draft
  | .custom stage => stage

/-- What the node below the layer is provided with. -/
def scope : Layer → Scope → Scope
  | .jsonBody schema _, outer => outer.withBody schema
  | .cookies schema, outer => outer.withMixin cookiesMixin (schema.getD .empty)
  | _, outer => outer

def answersUnmatched : Layer → Bool
  | .notFound => true
  | _ => false

end Layer

end RequestRouter
