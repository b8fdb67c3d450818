import RequestRouter.Proofs.Router.OneResponse

/-!
# Sinks that refuse everything

Nothing is delivered to a sink that refuses every response. The gate then reports no status. What
the tree offers claims the exchange before the sink is asked, so its status is reported although the
sink refused it.
-/

namespace RequestRouter

def Sink.RefusesAll (sink : Sink) : Prop :=
  ∀ before r, ∃ reason, sink before r = .error reason

theorem Sink.RefusesAll.takes {sink : Sink} (h : sink.RefusesAll) (before : List Response)
    (r : Response) : sink.takes before r = false := by
  obtain ⟨reason, refused⟩ := h before r
  rw [Sink.takes, refused]
  rfl

namespace Router

/-- Behind the gate the status that claimed the exchange is reported, whatever the sink did. -/
theorem status_of_admits {r : Router} {request : Request} (admits : r.Admits request) (sink : Sink)
    (fresh : RequestId) (log : Log) : ∃ outcome,
      (r.serve sink fresh request log).1 = .ok outcome ∧
      outcome.status = (r.serve sink fresh request log).2.committed := by
  unfold serve
  by_cases asks : r.Asks request
  · rw [dispatch_of_asks admits asks]
    obtain ⟨handled, ended⟩ := contain_ends (r.firstDraft fresh request)
      (r.root.invoke (r.entry fresh request) (r.firstDraft fresh request)) sink log.nextExchange
    rw [runTree, Course.run_bind_of_ok ended]
    exact ⟨_, rfl, rfl⟩
  · rw [dispatch_of_idle admits asks]
    exact ⟨_, rfl, rfl⟩

theorem status_of_not_admits {r : Router} {request : Request} (stopped : ¬ r.Admits request)
    {sink : Sink} (refuses : sink.RefusesAll) (fresh : RequestId) (log : Log) : ∃ outcome,
      (r.serve sink fresh request log).1 = .ok outcome ∧ outcome.status = none := by
  rcases r.dispatch_cases fresh request with ⟨-, status, body, rejected⟩ | ⟨admits, -⟩ | ⟨admits, -⟩
  · rw [serve, rejected, run_reject _ _ _ _ sink rfl]
    refine ⟨_, rfl, ?_⟩
    simp only [refuses.takes, Bool.false_eq_true, if_false]
  · exact absurd admits stopped
  · exact absurd admits stopped

/-- Against a sink that refuses everything nothing is delivered, and no status is reported exactly
for the requests that the gate stops and those to which nothing was offered in response. For any
other request the status of the one refused response is reported, whoever offered it. -/
theorem serve_refused (r : Router) {sink : Sink} (refuses : sink.RefusesAll) (fresh : RequestId)
    (request : Request) (log : Log) : ∃ outcome after offered,
      r.serve sink fresh request log = (.ok outcome, after) ∧
      after.delivered = log.delivered ∧
      after.offered = log.offered ++ offered ∧ offered.length ≤ 1 ∧
      (outcome.status = none ↔ ¬ r.Admits request ∨ offered = []) ∧
      ∀ status, outcome.status = some status ↔
        r.Admits request ∧ ∃ response : Response, offered = [response] ∧
          response.status = status := by
  obtain ⟨-, -, -, -, after⟩ := serve_spec r sink fresh request log
  have delivered : (r.serve sink fresh request log).2.delivered = log.delivered := by
    rw [after.delivered_eq]
    cases r.offerOf fresh request log with
    | none => exact List.append_nil _
    | some response => simp [Option.filter, refuses.takes]
  by_cases admits : r.Admits request
  · obtain ⟨outcome, ended, status⟩ := status_of_admits admits sink fresh log
    refine ⟨outcome, _, (r.offerOf fresh request log).toList, Prod.ext ended rfl, delivered,
      after.offered_eq, ?_⟩
    rw [status, after.committed_eq]
    cases r.offerOf fresh request log <;> simp [admits]
  · obtain ⟨outcome, ended, status⟩ := status_of_not_admits admits refuses fresh log
    refine ⟨outcome, _, (r.offerOf fresh request log).toList, Prod.ext ended rfl, delivered,
      after.offered_eq, ?_⟩
    rw [status]
    cases r.offerOf fresh request log <;> simp [admits]

def talkative : Handler := fun _ draft =>
  respond (draft.completeText "here")

/-- One route for each way to answer: a handler, a body parser, a fault boundary, and the router's
own containment; other paths are answered with 404. -/
def answeringRouter : Router :=
  let crash : Handler := fun _ _ => .crash (.text "gave up")
  ⟨.layer .notFound (.group [
    .bind "/text" (.endpoint (.ofHandler .get talkative)),
    .bind "/json" (.layer (.jsonBody (.single "n" .integer) .strict)
      (.endpoint (.ofHandler .get talkative))),
    .bind "/fault" (.layer .serverFault (.endpoint (.ofHandler .get crash))),
    .bind "/crash" (.endpoint (.ofHandler .get crash))]), {}, []⟩

theorem serve_refused_closed :
    let request : Request := ⟨.get, "/text", [], []⟩
    Sink.closed.RefusesAll ∧ answeringRouter.Admits request ∧ ∃ outcome after offered,
      answeringRouter.serve .closed default request {} = (.ok outcome, after) ∧
      after.delivered = [] ∧ after.offered = offered ∧ offered.length ≤ 1 ∧
      (outcome.status = none ↔ offered = []) := by
  intro request
  have refuses : Sink.closed.RefusesAll := fun _ _ => ⟨_, rfl⟩
  have admits : answeringRouter.Admits request := by
    unfold Admits
    decide +kernel
  obtain ⟨outcome, after, offered, served, delivered, all, once, status, -⟩ :=
    serve_refused answeringRouter refuses default request {}
  refine ⟨refuses, admits, outcome, after, offered, served, delivered, all, once, ?_⟩
  rw [status]
  exact or_iff_right (not_not_intro admits)

/-- Refused responses whose status is reported: of a handler, of a body parser, of a fault boundary,
of the router's containment and of the 404. -/
theorem refused_status_reported :
    let served (target : String) : Except Crash DispatchOutcome × Log :=
      answeringRouter.serve .closed default ⟨.get, target, [], []⟩ {}
    Sink.closed.RefusesAll ∧
      ["/text", "/json", "/fault", "/crash", "/none"].map
        (fun target => ((served target).1.toOption.map DispatchOutcome.status,
          (served target).2.delivered)) =
        [(some (some 200), []), (some (some 400), []), (some (some 500), []),
          (some (some 500), []), (some (some 404), [])] := by
  refine ⟨fun _ _ => ⟨_, rfl⟩, ?_⟩
  decide +kernel

end Router

end RequestRouter
