import RequestRouter.Exchange.Basic
import RequestRouter.Settings.Basic
import RequestRouter.Tree.Basic

/-!
# Routers

A checked route tree with its settings. Dispatching a request rejects illegal targets and bodies
that are too long, asks the tree, and contains what fails in it: at most one response is sent.
-/

namespace RequestRouter

structure DispatchOutcome where
  handled : Bool
  /-- The status of the response. -/
  status : Option Nat
  id : RequestId
deriving DecidableEq

/-- A route tree that passed its check. -/
structure Router where
  root : RouteTree
  settings : Settings
  routes : List RouteDescription

namespace Router

/-- The router of a tree, or the first fault that the tree's check finds. -/
def build (root : RouteTree) (settings : Settings) : Except RouteError Router :=
  (root.check .root).map fun _ => ⟨root, settings, root.describe ""⟩

def hasTwoPoints : List Char → Bool
  | '.' :: '.' :: _ => true
  | _ :: rest => hasTwoPoints rest
  | [] => false

/-- A target starts with a slash and holds no `..`. -/
def isLegalTarget (target : List Char) : Bool :=
  target.head? == some '/' && !hasTwoPoints target

def illegalTargetBody : String := "Illegal request-target"

def payloadTooLargeBody : String := "Payload too large"

/-- The id that a request carries in the header of the settings; `fresh` if it carries none. -/
def requestId (settings : Settings) (fresh : RequestId) (request : Request) : RequestId :=
  .ofHeaderOr fresh (request.header? settings.requestIdHeader)

/-- Answers without asking the tree. The status is reported if the sink takes the response. -/
def reject (draft : Draft) (status : Nat) (body : String) (id : RequestId) :
    Course Event DispatchOutcome :=
  .send ((draft.withStatus status).completeText body) fun
    | .ok () => .done ⟨true, some status, id⟩
    | .error _ => .done ⟨true, none, id⟩

/-- Runs a node and contains its failure: the request then counts as not handled. -/
def contain (draft : Draft) (node : Handled) : Course Event Bool := do
  match Layer.outcomeOf (← node.attempt) with
  | .ok handled => return handled
  | .error _ =>
    Layer.sendFault draft
    return false

def dispatch (r : Router) (fresh : RequestId) (request : Request) :
    Course Event DispatchOutcome :=
  let id := requestId r.settings fresh request
  let draft := Draft.fresh.withHeader r.settings.requestIdHeader id.text
  if !isLegalTarget request.target.toList then reject draft 400 illegalTargetBody id
  else if r.settings.maxBodyBytes < request.body.length then
    reject draft 413 payloadTooLargeBody id
  else
    let s := (RequestState.start request id).withPolicy r.settings.conversionPolicy
    if !r.root.accepts s.method s.remaining.toList && !r.root.answersUnmatched then
      .done ⟨false, none, id⟩
    else do
      let handled ← contain draft (r.root.invoke s draft)
      .committed fun status => .done ⟨handled, status, id⟩

/-- Dispatches one request as an exchange of its own. -/
def serve (r : Router) (sink : Sink) (fresh : RequestId) (request : Request) (log : Log) :
    Except Crash DispatchOutcome × Log :=
  (r.dispatch fresh request).run sink log.nextExchange

/-- Dispatches requests one after another; `fresh` gives the id for a place in the list. -/
def serveAll (r : Router) (sink : Sink) (fresh : Nat → RequestId) :
    (place : Nat) → List Request → Log → List DispatchOutcome × Log
  | _, [], log => ([], log)
  | place, request :: rest, log =>
    let (outcome, log) := r.serve sink (fresh place) request log
    let (outcomes, log) := serveAll r sink fresh (place + 1) rest log
    match outcome with
    | .ok outcome => (outcome :: outcomes, log)
    | .error _ => (outcomes, log)

end Router

end RequestRouter
