import RequestRouter.Proofs.Router.OneResponse
import RequestRouter.Proofs.Tree.Calls

/-!
# What a meter shows after a sequence of requests

Requests are served one after another, and a meter adds up over all of them. Main statement: after
any sequence a meter shows one request for every call of its layer that came back, under the
outcome that the wrapped node had. Calls that ended in a crash are missing from all its counters,
and only those.
-/

namespace RequestRouter

namespace Counts

/-- Every request is counted under one outcome. -/
def Balanced (c : Counts) : Prop :=
  c.requests = c.handled + c.unhandled + c.failed

/-- What the counters are after calls, from how many ended in which way. -/
structure Tallied (before : Counts) (endings : List (Option CallOutcome)) (after : Counts) :
    Prop where
  requests : after.requests + endings.count none = before.requests + endings.length
  handled : after.handled = before.handled + endings.count (some .handled)
  unhandled : after.unhandled = before.unhandled + endings.count (some .unhandled)
  failed : after.failed = before.failed + endings.count (some .failed)
  balanced : before.Balanced → after.Balanced

theorem tallied_tallyAll (c : Counts) (endings : List (Option CallOutcome)) :
    c.Tallied endings (c.tallyAll endings) := by
  induction endings generalizing c with
  | nil => exact ⟨rfl, rfl, rfl, rfl, id⟩
  | cons ending rest ih =>
    have later := ih (c.tally ending)
    have step : c.tallyAll (ending :: rest) = (c.tally ending).tallyAll rest := rfl
    rw [step]
    obtain ⟨requests, handled, unhandled, failed, balanced⟩ := later
    simp only [tally] at requests handled unhandled failed balanced ⊢
    rcases ending with _ | (_ | _ | _)
    all_goals
      simp only [add, Balanced] at requests handled unhandled failed balanced ⊢
      constructor <;> simp only [List.count_cons, List.length_cons, Balanced] <;> grind

end Counts

namespace Router

instance (r : Router) (request : Request) : Decidable (r.Admits request) :=
  inferInstanceAs (Decidable (_ ∧ _))

instance (r : Router) (request : Request) : Decidable (r.Asks request) :=
  inferInstanceAs (Decidable (_ ∨ _))

section Calls

variable (callers : Stage → RequestState → Draft → Caller) (meter : String) (sink : Sink)
  (r : Router)

/-- All calls of the meter while one request is served. -/
def calls (fresh : RequestId) (request : Request) (log : Log) : List (Option CallOutcome) :=
  if r.Admits request ∧ r.Asks request then
    r.root.calls callers meter sink (r.entry fresh request) (r.firstDraft fresh request)
      log.nextExchange
  else []

def callsAll (fresh : Nat → RequestId) :
    (place : Nat) → List Request → Log → List (Option CallOutcome)
  | _, [], _ => []
  | place, request :: rest, log =>
    calls callers meter sink r (fresh place) request log ++
      callsAll fresh (place + 1) rest (r.serve sink (fresh place) request log).2

end Calls

theorem reject_uncounted (draft : Draft) (status : Nat) (body : String) (id : RequestId) :
    (reject draft status body id).Uncounted := by
  refine Course.send_uncounted fun reply => ?_
  cases reply <;> exact Course.done_uncounted _

/-- Containing a node adds nothing to what it counts. -/
theorem counts_contain (draft : Draft) (node : Handled) (sink : Sink) (l : Log) (meter : String) :
    ((contain draft node).run sink l).2.counts meter = (node.run sink l).2.counts meter := by
  refine (Course.counts_run_bind _ (fun result => ?_) sink l meter).trans ?_
  · cases Layer.outcomeOf result with
    | ok handled => exact Course.done_uncounted _
    | error cause => exact (Layer.sendFault_uncounted draft).bind fun _ => Course.done_uncounted _
  · rw [Course.run_attempt]

variable {callers : Stage → RequestState → Draft → Caller} {r : Router}

theorem counts_serve (plays : r.root.PlaysBy callers) (meter : String) (sink : Sink)
    (fresh : RequestId) (request : Request) (log : Log) :
    (r.serve sink fresh request log).2.counts meter =
      (log.counts meter).tallyAll (r.calls callers meter sink fresh request log) := by
  rw [serve, calls]
  rcases r.dispatch_cases fresh request with ⟨stopped, _, _, rejected⟩ | ⟨_, idle, quiet⟩ |
    ⟨admits, asks, run⟩
  · rw [rejected, if_neg fun both => stopped both.1]
    exact reject_uncounted _ _ _ _ sink log.nextExchange meter
  · rw [quiet, if_neg fun both => idle both.2]
    rfl
  · rw [run, if_pos ⟨admits, asks⟩, runTree, Course.counts_run_bind, counts_contain]
    · exact RouteTree.counted plays meter sink _ _ log.nextExchange
    · exact fun handled => Course.committed_uncounted fun _ => Course.done_uncounted _

theorem counts_serveAll (plays : r.root.PlaysBy callers) (meter : String) (sink : Sink)
    (fresh : Nat → RequestId) (place : Nat) (requests : List Request) (log : Log) :
    (r.serveAll sink fresh place requests log).2.counts meter =
      (log.counts meter).tallyAll (r.callsAll callers meter sink fresh place requests log) := by
  induction requests generalizing place log with
  | nil => rfl
  | cons request rest ih =>
    obtain ⟨_, -, -, -, final⟩ := serveAll_cons r sink fresh place request rest log
    rw [final, ih, callsAll, Counts.tallyAll_append, counts_serve plays]

/-- A meter adds up over every sequence of requests, for every tree and every sink. For each call
of its layer it counts one request under the outcome of the wrapped node, so that the requests are
the sum of the outcomes. A call that ended in a crash is not counted at all: the requests fall short
of the calls by the crashes, and agree with them if there were none. -/
theorem serveAll_meters (plays : r.root.PlaysBy callers) (meter : String) (sink : Sink)
    (fresh : Nat → RequestId) (requests : List Request) (log : Log) :
    let calls := r.callsAll callers meter sink fresh 0 requests log
    let before := log.counts meter
    let after := (r.serveAll sink fresh 0 requests log).2.counts meter
    before.Tallied calls after ∧
      (none ∉ calls → after.requests = before.requests + calls.length) := by
  intro calls before after
  have counted : after = before.tallyAll calls :=
    counts_serveAll plays meter sink fresh 0 requests log
  have tallied : before.Tallied calls after := counted ▸ before.tallied_tallyAll calls
  refine ⟨tallied, fun returned => ?_⟩
  have requests := tallied.requests
  rw [List.count_eq_zero.2 returned] at requests
  exact requests

/-- Fails for an empty body, else answers it. -/
def picky : Handler := fun s draft =>
  if s.request.body.isEmpty then .crash (.text "nothing to read")
  else respond (draft.completeText "ok")

/-- Calls the node once more if it crashed. -/
def onceMore (s : RequestState) (draft : Draft) : Caller :=
  .call s draft fun
    | .ok result => .done result
    | .error _ => .call s draft fun
      | .ok result => .done result
      | .error c => .crash c

def retryingRouter : Router :=
  ⟨.layer (.custom (Caller.stage onceMore)) (.layer (.metrics "m")
    (.bind "/a" (.endpoint (.ofHandler .get picky)))), {}, []⟩

theorem serveAll_meters_retrying :
    let requests : List Request := [⟨.get, "/a", [], []⟩, ⟨.get, "/a", [], [120]⟩]
    let calls := retryingRouter.callsAll (fun _ => onceMore) "m" .memory (fun _ => default) 0
      requests {}
    let after := (retryingRouter.serveAll .memory (fun _ => default) 0 requests {}).2.counts "m"
    retryingRouter.root.PlaysBy (fun _ => onceMore) ∧ calls = [none, none, some .handled] ∧
      after.requests + 2 = 3 ∧ after.handled = 1 ∧ after.Balanced := by
  intro requests calls after
  have plays : retryingRouter.root.PlaysBy fun _ => onceMore :=
    ⟨fun _ _ _ => rfl, trivial, trivial⟩
  have listed : calls = [none, none, some .handled] := by decide +kernel
  obtain ⟨tallied, -⟩ :=
    serveAll_meters plays "m" .memory (fun _ => default) requests {}
  refine ⟨plays, listed, ?_, ?_, tallied.balanced rfl⟩
  · have total := tallied.requests
    rw [show retryingRouter.callsAll _ _ _ _ _ _ _ = _ from listed] at total
    exact total
  · have handled := tallied.handled
    rw [show retryingRouter.callsAll _ _ _ _ _ _ _ = _ from listed] at handled
    exact handled

/-- One request reaches a meter whose node crashes, and the meter shows none. -/
theorem crash_uncounted :
    let r : Router := ⟨.layer (.metrics "m") (.bind "/boom"
      (.endpoint (.ofHandler .get fun _ _ => .crash (.text "boom")))), {}, []⟩
    let requests : List Request := [⟨.get, "/boom", [], []⟩]
    r.root.Standard ∧
      r.callsAll (fun _ _ _ => .crash .other) "m" .memory (fun _ => default) 0 requests {} =
        [none] ∧
      ((r.serveAll .memory (fun _ => default) 0 requests {}).1.map DispatchOutcome.status =
        [some 500]) ∧
      (r.serveAll .memory (fun _ => default) 0 requests {}).2.counts "m" = ⟨0, 0, 0, 0⟩ := by
  refine ⟨⟨trivial, trivial⟩, ?_, ?_, ?_⟩ <;> decide +kernel

end Router

end RequestRouter
