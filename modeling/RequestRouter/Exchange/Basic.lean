import RequestRouter.Tree.Endpoint

/-!
# Exchanges

Running a course against a sink. The first response offered claims the exchange, whether or not
the sink takes it; every later one is refused before it reaches the sink. The log keeps what was
offered to the sink, what it took, which handlers were entered, and the meters.
-/

namespace RequestRouter

/-- Where responses go. Given those offered to it before, a sink takes a response or says why
not. -/
abbrev Sink := List Response → Response → Except String Unit

namespace Sink

def memory : Sink := fun _ _ => .ok ()

/-- Refuses every response: nobody listens any more. -/
def closed : Sink := fun _ _ => .error "response channel closed"

end Sink

/-- The state of the world during and after exchanges. -/
structure Log where
  /-- The status of the response that claimed the current exchange. -/
  committed : Option Nat := none
  /-- The responses that reached the sink, whether it took them or not. -/
  offered : List Response := []
  /-- The responses that the sink took. -/
  delivered : List Response := []
  visits : List Visit := []
  meters : Table Counts := .empty

namespace Log

/-- The counters of a meter; all zero before its first request. -/
def counts (l : Log) (meter : String) : Counts :=
  (l.meters.get? meter).getD {}

/-- The log with no claim on the exchange. -/
def nextExchange (l : Log) : Log :=
  { l with committed := none }

/-- Offers a response: it has to claim the exchange first. -/
def send (sink : Sink) (r : Response) (l : Log) : Except ResponseError Unit × Log :=
  match l.committed with
  | some _ => (.error .alreadySent, l)
  | none =>
    let l' := { l with committed := some r.status, offered := l.offered ++ [r] }
    match sink l.offered r with
    | .ok () => (.ok (), { l' with delivered := l.delivered ++ [r] })
    | .error reason => (.error (.notWritten reason), l')

/-- The log with an event: a meter counts at once. -/
def record (l : Log) : Event → Log
  | .entered visit => { l with visits := l.visits ++ [visit] }
  | .counted meter outcome =>
    { l with meters := l.meters.insert meter ((l.counts meter).add outcome) }

end Log

def Course.run {α : Type} (sink : Sink) : Course Event α → Log → Except Crash α × Log
  | .done a, l => (.ok a, l)
  | .crash c, l => (.error c, l)
  | .send r next, l =>
    let (answer, l) := l.send sink r
    run sink (next answer) l
  | .committed next, l => run sink (next l.committed) l
  | .readMeter meter next, l => run sink (next (l.counts meter)) l
  | .note event next, l => run sink next (l.record event)

end RequestRouter
