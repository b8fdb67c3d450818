import RequestRouter.CommandLine.Basic
import RequestRouter.Router.Basic

/-!
# Probes

A probe dispatches one request and shows what was sent in answer.
-/

namespace RequestRouter

def Router.listing (r : Router) : String :=
  String.join (r.routes.map fun d => d.text ++ "\n")

inductive ProbeError where
  | badMethod (name : String)
  | crashed (message : String)
deriving Repr, DecidableEq

def ProbeError.message : ProbeError → String
  | .badMethod name => s!"invalid method `{name}`: " ++ HttpError.badMethod.message
  | .crashed message => message

/-- A response as a probe shows it: status, headers, and the body after a blank line. -/
def Response.text (r : Response) : String :=
  let headers := r.headers.map fun (name, value) => s!"{name}: {value}\n"
  s!"status: {r.status}\n" ++ String.join headers ++ "\n" ++ r.body ++ "\n"

namespace Probe

/-- The request to dispatch. The letters of the method are put in upper case. -/
def toRequest (p : Probe) : Except ProbeError Request :=
  match Method.ofText? (Http.upperCase p.method) with
  | some method =>
    .ok ⟨method, p.path, Headers.ofPairs p.headers, (p.body.map Utf8.encode).getD []⟩
  | none => .error (.badMethod p.method)

def report (outcome : DispatchOutcome) (responses : List Response) : String :=
  s!"handled: {outcome.handled}  request-id: {outcome.id.text}\n" ++
    if responses.isEmpty then "no response sent\n" else String.join (responses.map Response.text)

/-- Dispatches the request with a sink of its own. The log goes on from the one before. -/
def run (p : Probe) (router : Router) (fresh : RequestId) (log : Log) :
    Except ProbeError String × Log :=
  match p.toRequest with
  | .error e => (.error e, log)
  | .ok request =>
    let unsent := { log with offered := [], delivered := [] }
    let (outcome, log) := router.serve .memory fresh request unsent
    match outcome with
    | .ok outcome => (.ok (report outcome log.delivered), log)
    | .error c => (.error (.crashed c.message), log)

end Probe

end RequestRouter
