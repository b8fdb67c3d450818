import RequestRouter.Proofs.Exchange.Course
import RequestRouter.Tree.Layer

/-!
# Fault boundaries

A fault boundary ends well whatever its node does. It hands on the result of a node that did not
fail. Of a node that failed it keeps what has reached the sink; if nothing has claimed the exchange,
it offers one response of its own, made of the headers that it was entered with.
-/

namespace RequestRouter

def Failed (result : Except Crash (Except RouteError Bool)) : Prop :=
  (∃ cause, result = .ok (.error cause)) ∨ ∃ crash, result = .error crash

namespace Layer

variable {next : Next} {s : RequestState} {draft : Draft} {sink : Sink} {log : Log}

theorem handled_or_failed (result : Except Crash (Except RouteError Bool)) :
    (∃ handled, result = .ok (.ok handled)) ∨ Failed result := by
  cases result with
  | error crash => exact Or.inr (Or.inr ⟨crash, rfl⟩)
  | ok value =>
    cases value with
    | error cause => exact Or.inr (Or.inl ⟨cause, rfl⟩)
    | ok handled => exact Or.inl ⟨handled, rfl⟩

theorem outcomeOf_of_failed {result : Except Crash (Except RouteError Bool)} (h : Failed result) :
    ∃ cause, outcomeOf result = .error cause := by
  rcases h with ⟨cause, rfl⟩ | ⟨crash, rfl⟩
  · exact ⟨cause, rfl⟩
  · exact ⟨.ofCrash crash, rfl⟩

/-- The response of a boundary that was entered with these headers. -/
def faultResponse (headers : List (String × String)) : Response :=
  ⟨500, headers, serverFaultBody⟩

theorem sendFault_of_committed {status : Nat} (claimed : log.committed = some status)
    (sink : Sink) (draft : Draft) : (sendFault draft).run sink log = (.ok (), log) := by
  simp only [sendFault, Course.run, claimed]

theorem sendFault_of_free (free : log.committed = none) (sink : Sink) (draft : Draft) :
    (sendFault draft).run sink log =
      (.ok (), (log.send sink (faultResponse draft.headers)).2) := by
  simp only [sendFault, Course.run, free]
  rfl

/-- What a boundary does after its node, in the words of the node's outcome. -/
theorem serverFault_run (next : Next) (s : RequestState) (draft : Draft) (sink : Sink)
    (log : Log) : (serverFault.call next s draft).run sink log =
      match outcomeOf ((next.run s draft).run sink log).1 with
      | .ok handled => (.ok (.ok handled), ((next.run s draft).run sink log).2)
      | .error _ =>
        (.ok (.ok false), ((sendFault draft).run sink ((next.run s draft).run sink log).2).2) := by
  show ((next.run s draft).attempt.bind _).run sink log = _
  rw [Course.run_bind, Course.run_attempt]
  dsimp only
  cases outcomeOf ((next.run s draft).run sink log).1 with
  | ok handled => rfl
  | error cause =>
    show ((sendFault draft).bind _).run sink _ = _
    have ended : ((sendFault draft).run sink ((next.run s draft).run sink log).2).1 = .ok () := by
      cases claimed : ((next.run s draft).run sink log).2.committed with
      | none => rw [sendFault_of_free claimed]
      | some status => rw [sendFault_of_committed claimed]
    rw [Course.run_bind_of_ok ended]
    rfl

theorem serverFault_run_of_handled {handled : Bool}
    (h : ((next.run s draft).run sink log).1 = .ok (.ok handled)) :
    (serverFault.call next s draft).run sink log = (next.run s draft).run sink log := by
  rw [serverFault_run, h]
  exact Prod.ext h.symm rfl

theorem serverFault_run_of_failed (h : Failed ((next.run s draft).run sink log).1) :
    (serverFault.call next s draft).run sink log =
      (.ok (.ok false), ((sendFault draft).run sink ((next.run s draft).run sink log).2).2) := by
  obtain ⟨cause, failed⟩ := outcomeOf_of_failed h
  rw [serverFault_run, failed]

/-- A node that failed before anything had claimed the exchange leaves the response to the
boundary. -/
theorem serverFault_offers (failed : Failed ((next.run s draft).run sink log).1)
    (free : ((next.run s draft).run sink log).2.committed = none) :
    ((serverFault.call next s draft).run sink log).2 =
        (((next.run s draft).run sink log).2.send sink (faultResponse draft.headers)).2 ∧
      ((serverFault.call next s draft).run sink log).2.offered =
        ((next.run s draft).run sink log).2.offered ++ [faultResponse draft.headers] := by
  have sent := serverFault_run_of_failed failed
  rw [sendFault_of_free free] at sent
  refine ⟨by rw [sent], ?_⟩
  rw [sent]
  exact (Log.send_of_free free sink _).offered_eq

/-- A fault boundary ends with a value, never with an error or a crash. A node that ended with a
value is handed on as it is. If the node failed, the request counts as not handled. Where a response
has claimed the exchange by then, the sink gets no more; where none has, it is offered exactly one
response, of status 500 and with the headers that the boundary was entered with. This response is
the same after any two failures of any two nodes, for whatever request and against whatever sink. -/
theorem serverFault_contains (next : Next) (s : RequestState) (draft : Draft) (sink : Sink)
    (log : Log) :
    let nested := (next.run s draft).run sink log
    let contained := (serverFault.call next s draft).run sink log
    (∃ handled, contained.1 = .ok (.ok handled)) ∧
    (∀ handled, nested.1 = .ok (.ok handled) → contained = nested) ∧
    (Failed nested.1 → contained.1 = .ok (.ok false) ∧
      (∀ status, nested.2.committed = some status → contained.2 = nested.2) ∧
      (nested.2.committed = none →
        contained.2 =
          (nested.2.send sink ⟨500, draft.headers, "Internal server error!"⟩).2 ∧
        contained.2.offered =
          nested.2.offered ++ [⟨500, draft.headers, "Internal server error!"⟩])) ∧
    ∀ (next' : Next) (s' : RequestState) (draft' : Draft) (sink' : Sink) (log' : Log),
      let nested' := (next'.run s' draft').run sink' log'
      let contained' := (serverFault.call next' s' draft').run sink' log'
      draft'.headers = draft.headers →
      Failed nested.1 → nested.2.committed = none →
      Failed nested'.1 → nested'.2.committed = none →
        ∃ response, contained.2.offered = nested.2.offered ++ [response] ∧
          contained'.2.offered = nested'.2.offered ++ [response] := by
  dsimp only
  refine ⟨?_, fun handled => serverFault_run_of_handled, fun failed => ⟨?_, ?_, ?_⟩, ?_⟩
  · rcases handled_or_failed ((next.run s draft).run sink log).1 with ⟨handled, ended⟩ | failed
    · exact ⟨handled, by rw [serverFault_run_of_handled ended, ended]⟩
    · exact ⟨false, by rw [serverFault_run_of_failed failed]⟩
  · rw [serverFault_run_of_failed failed]
  · intro status claimed
    rw [serverFault_run_of_failed failed, sendFault_of_committed claimed]
  · exact serverFault_offers failed
  · intro next' s' draft' sink' log' same failed free failed' free'
    have offered' := (serverFault_offers failed' free').2
    rw [same] at offered'
    exact ⟨_, (serverFault_offers failed free).2, offered'⟩

/-- Changes its own draft and fails before it sends it. -/
def failsHalfWay : Next where
  accepts := fun _ _ => true
  run := fun _ draft =>
    let changed := (draft.withStatus 201).withHeader "x-partial" "yes"
    if changed.status = 201 then .done (.error (.handler ⟨"failed half way", []⟩))
    else answer (changed.complete "")

/-- Crashes, after a first response if it is to send one. -/
def crashes (sendsFirst : Bool) : Next where
  accepts := fun _ _ => true
  run := fun _ draft =>
    if sendsFirst then .send ((draft.withStatus 201).complete "created") fun _ => .crash .other
    else .crash (.text "index out of range")

theorem serverFault_contains_two_failures :
    let s := RequestState.start ⟨.get, "/", [], []⟩ default
    let failed := (failsHalfWay.run s .fresh).run .memory {}
    let crashed := ((crashes false).run s .fresh).run .closed {}
    let late := ((crashes true).run s .fresh).run .memory {}
    Failed failed.1 ∧ failed.2.committed = none ∧ Failed crashed.1 ∧ crashed.2.committed = none ∧
      Failed late.1 ∧ late.2.committed = some 201 ∧
      ((serverFault.call failsHalfWay s .fresh).run .memory {}).2.offered =
        [⟨500, [("content-type", "text/html")], "Internal server error!"⟩] ∧
      (∃ response,
        ((serverFault.call failsHalfWay s .fresh).run .memory {}).2.offered = [response] ∧
        ((serverFault.call (crashes false) s .fresh).run .closed {}).2.offered = [response]) ∧
      ((serverFault.call (crashes true) s .fresh).run .memory {}).2 = late.2 := by
  intro s failed crashed late
  have handlerFailed : Failed failed.1 := Or.inl ⟨_, rfl⟩
  have nodeCrashed : Failed crashed.1 := Or.inr ⟨_, rfl⟩
  have crashedLate : Failed late.1 := Or.inr ⟨_, rfl⟩
  obtain ⟨-, -, contains, alike⟩ := serverFault_contains failsHalfWay s .fresh .memory {}
  obtain ⟨-, -, containsLate, -⟩ := serverFault_contains (crashes true) s .fresh .memory {}
  refine ⟨handlerFailed, rfl, nodeCrashed, rfl, crashedLate, rfl, ?_, ?_, ?_⟩
  · exact ((contains handlerFailed).2.2 rfl).2
  · exact alike (crashes false) s .fresh .closed {} rfl handlerFailed rfl nodeCrashed rfl
  · exact (containsLate crashedLate).2.1 201 rfl

end Layer

end RequestRouter
