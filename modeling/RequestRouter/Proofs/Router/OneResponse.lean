import RequestRouter.Proofs.Exchange.Meters
import RequestRouter.Proofs.Router.Dispatch

/-!
# One response for a request

A dispatch never crashes, delivers at most one response and reports it. Requests that are served
one after another do not see each other, unless a handler or a stage looks at a meter.
-/

namespace RequestRouter

namespace Course

variable {α β : Type}

/-- The course ends with a value against every sink. -/
def Ends (c : Course Event α) : Prop :=
  ∀ sink l, ∃ a, (c.run sink l).1 = .ok a

theorem attempt_ends (c : Course Event α) : c.attempt.Ends := by
  intro sink l
  exact ⟨_, by rw [run_attempt]⟩

theorem Ends.bind {c : Course Event α} (h : c.Ends) {f : α → Course Event β}
    (after : ∀ a, (f a).Ends) : (c.bind f).Ends := by
  intro sink l
  obtain ⟨a, value⟩ := h sink l
  obtain ⟨b, ended⟩ := after a sink (c.run sink l).2
  refine ⟨b, ?_⟩
  rw [run_bind_of_ok value]
  exact ended

end Course

theorem Layer.sendFault_ends (draft : Draft) : (Layer.sendFault draft).Ends := by
  intro sink l
  cases claimed : l.committed <;>
    exact ⟨(), by simp only [Layer.sendFault, Course.run, claimed]⟩

namespace Router

theorem contain_ends (draft : Draft) (node : Handled) : (contain draft node).Ends := by
  refine node.attempt_ends.bind fun result => ?_
  cases Layer.outcomeOf result with
  | ok handled => exact fun _ _ => ⟨handled, rfl⟩
  | error e => exact (Layer.sendFault_ends draft).bind fun _ _ _ => ⟨false, rfl⟩

/-- Against every sink the course ends with an outcome for the id. If the sink takes all it is
offered, the outcome has the status that claimed the exchange. -/
def Reports (c : Course Event DispatchOutcome) (id : RequestId) : Prop :=
  ∀ sink l, l.committed = none → ∃ outcome, (c.run sink l).1 = .ok outcome ∧ outcome.id = id ∧
    (sink.TakesAll → outcome.status = (c.run sink l).2.committed)

theorem reject_reports (draft : Draft) (status : Nat) (body : String) (id : RequestId) :
    Reports (reject draft status body id) id := by
  intro sink l free
  rw [run_reject draft status body id sink free]
  refine ⟨_, rfl, rfl, fun takesAll => ?_⟩
  simp only [takesAll.takes, if_true]

theorem runTree_reports (r : Router) (fresh : RequestId) (request : Request) :
    Reports (r.runTree fresh request) (requestId r.settings fresh request) := by
  intro sink l _
  obtain ⟨handled, ended⟩ := contain_ends (r.firstDraft fresh request)
    (r.root.invoke (r.entry fresh request) (r.firstDraft fresh request)) sink l
  rw [runTree, Course.run_bind_of_ok ended]
  exact ⟨_, rfl, rfl, fun _ => rfl⟩

theorem dispatch_reports (r : Router) (fresh : RequestId) (request : Request) :
    Reports (r.dispatch fresh request) (requestId r.settings fresh request) := by
  rcases r.dispatch_cases fresh request with ⟨-, _, _, rejected⟩ | ⟨-, -, idle⟩ | ⟨-, -, run⟩
  · rw [rejected]
    exact reject_reports _ _ _ _
  · rw [idle]
    exact fun _ _ free => ⟨_, rfl, rfl, fun _ => free.symm⟩
  · rw [run]
    exact runTree_reports r fresh request

theorem reject_ignoresMeters (draft : Draft) (status : Nat) (body : String) (id : RequestId) :
    (reject draft status body id).IgnoresMeters := by
  intro reply
  cases reply <;> trivial

theorem contain_ignoresMeters {node : Handled} (h : node.IgnoresMeters) (draft : Draft) :
    (contain draft node).IgnoresMeters := by
  refine h.attempt.bind fun result => ?_
  cases Layer.outcomeOf result with
  | ok handled => trivial
  | error e => exact (Layer.sendFault_ignoresMeters draft).bind fun _ => trivial

theorem dispatch_ignoresMeters {r : Router} (h : r.root.IgnoresMeters) (fresh : RequestId)
    (request : Request) : (r.dispatch fresh request).IgnoresMeters := by
  rcases r.dispatch_cases fresh request with ⟨-, _, _, rejected⟩ | ⟨-, -, idle⟩ | ⟨-, -, run⟩
  · rw [rejected]
    exact reject_ignoresMeters _ _ _ _
  · rw [idle]
    trivial
  · rw [run]
    refine (contain_ignoresMeters (RouteTree.invoke_ignoresMeters h _ _) _).bind fun _ => ?_
    exact fun _ => trivial

/-- The first response that a request offers. -/
def offerOf (r : Router) (fresh : RequestId) (request : Request) (log : Log) : Option Response :=
  (r.dispatch fresh request).firstOffer log.nextExchange

/-- One exchange: it ends, and the log holds its first offer. -/
theorem serve_spec (r : Router) (sink : Sink) (fresh : RequestId) (request : Request) (log : Log) :
    ∃ outcome, (r.serve sink fresh request log).1 = .ok outcome ∧
      outcome.id = requestId r.settings fresh request ∧
      (sink.TakesAll → outcome.status = (r.serve sink fresh request log).2.committed) ∧
      Log.After sink log (r.serve sink fresh request log).2 (r.offerOf fresh request log) := by
  obtain ⟨outcome, ended, id, status⟩ := dispatch_reports r fresh request sink log.nextExchange rfl
  have after := Course.run_of_free sink (r.dispatch fresh request) (l := log.nextExchange) rfl
  exact ⟨outcome, ended, id, status, after⟩

theorem offerOf_eq {r : Router} (h : r.root.IgnoresMeters) (fresh : RequestId) (request : Request)
    (log log' : Log) : r.offerOf fresh request log = r.offerOf fresh request log' :=
  (dispatch_ignoresMeters h fresh request).firstOffer_eq _ _

/-- An exchange adds to the log what it adds to an empty one. -/
theorem serve_alone {r : Router} (h : r.root.IgnoresMeters) (sink : Sink) (fresh : RequestId)
    (request : Request) (log : Log) :
    (r.serve sink fresh request log).2.offered =
        log.offered ++ (r.serve sink fresh request {}).2.offered ∧
      (sink.Steady →
        (r.serve sink fresh request log).1 = (r.serve sink fresh request {}).1 ∧
        (r.serve sink fresh request log).2.delivered =
          log.delivered ++ (r.serve sink fresh request {}).2.delivered) := by
  obtain ⟨-, -, -, -, after⟩ := serve_spec r sink fresh request log
  obtain ⟨-, -, -, -, alone⟩ := serve_spec r sink fresh request {}
  rw [offerOf_eq h fresh request log {}] at after
  refine ⟨by rw [after.offered_eq, alone.offered_eq, List.nil_append], fun steady => ⟨?_, ?_⟩⟩
  · exact (dispatch_ignoresMeters h fresh request).run_value steady rfl
  · rw [after.delivered_eq, alone.delivered_eq, List.nil_append]
    congr 3
    exact funext fun response => steady.takes log.offered [] response

theorem serveAll_cons (r : Router) (sink : Sink) (fresh : Nat → RequestId) (place : Nat)
    (request : Request) (rest : List Request) (log : Log) :
    ∃ outcome, (r.serve sink (fresh place) request log).1 = .ok outcome ∧
      outcome.id = requestId r.settings (fresh place) request ∧
      (r.serveAll sink fresh place (request :: rest) log).1 = outcome ::
        (r.serveAll sink fresh (place + 1) rest (r.serve sink (fresh place) request log).2).1 ∧
      (r.serveAll sink fresh place (request :: rest) log).2 =
        (r.serveAll sink fresh (place + 1) rest (r.serve sink (fresh place) request log).2).2 := by
  obtain ⟨outcome, ended, id, -⟩ := serve_spec r sink (fresh place) request log
  refine ⟨outcome, ended, id, ?_, ?_⟩
  · simp only [serveAll, ended]
  · simp only [serveAll, ended]

/-- Each request gets one outcome, in the order of the requests. -/
theorem serveAll_ids (r : Router) (sink : Sink) (fresh : Nat → RequestId) (place : Nat)
    (requests : List Request) (log : Log) :
    (r.serveAll sink fresh place requests log).1.map DispatchOutcome.id =
      (requests.zipIdx place).map fun (request, i) => requestId r.settings (fresh i) request := by
  induction requests generalizing place log with
  | nil => rfl
  | cons request rest ih =>
    obtain ⟨outcome, -, id, outcomes, -⟩ := serveAll_cons r sink fresh place request rest log
    rw [outcomes, List.map_cons, id, ih, List.zipIdx_cons, List.map_cons]

theorem serveAll_offered {r : Router} (h : r.root.IgnoresMeters) (sink : Sink)
    (fresh : Nat → RequestId) (place : Nat) (requests : List Request) (log : Log) :
    (r.serveAll sink fresh place requests log).2.offered =
      log.offered ++ (requests.zipIdx place).flatMap fun (request, i) =>
        (r.serve sink (fresh i) request {}).2.offered := by
  induction requests generalizing place log with
  | nil => exact (List.append_nil _).symm
  | cons request rest ih =>
    obtain ⟨-, -, -, -, final⟩ := serveAll_cons r sink fresh place request rest log
    rw [final, ih, (serve_alone h sink (fresh place) request log).1, List.zipIdx_cons,
      List.flatMap_cons, List.append_assoc]

theorem serveAll_delivered {r : Router} (h : r.root.IgnoresMeters) {sink : Sink}
    (steady : sink.Steady) (fresh : Nat → RequestId) (place : Nat) (requests : List Request)
    (log : Log) :
    (r.serveAll sink fresh place requests log).2.delivered =
      log.delivered ++ (requests.zipIdx place).flatMap fun (request, i) =>
        (r.serve sink (fresh i) request {}).2.delivered := by
  induction requests generalizing place log with
  | nil => exact (List.append_nil _).symm
  | cons request rest ih =>
    obtain ⟨-, -, -, -, final⟩ := serveAll_cons r sink fresh place request rest log
    obtain ⟨-, delivered⟩ := (serve_alone h sink (fresh place) request log).2 steady
    rw [final, ih, delivered, List.zipIdx_cons, List.flatMap_cons, List.append_assoc]

theorem serveAll_outcomes {r : Router} (h : r.root.IgnoresMeters) {sink : Sink}
    (steady : sink.Steady) (fresh : Nat → RequestId) (place : Nat) (requests : List Request)
    (log : Log) :
    (r.serveAll sink fresh place requests log).1.map .ok =
      (requests.zipIdx place).map fun (request, i) => (r.serve sink (fresh i) request {}).1 := by
  induction requests generalizing place log with
  | nil => rfl
  | cons request rest ih =>
    obtain ⟨outcome, ended, -, outcomes, -⟩ := serveAll_cons r sink fresh place request rest log
    obtain ⟨value, -⟩ := (serve_alone h sink (fresh place) request log).2 steady
    rw [outcomes, List.map_cons, ih, List.zipIdx_cons, List.map_cons, ← ended, value]

/-- At most one response for a request. An exchange ends with an outcome and delivers one response
or none; if the sink takes all, the outcome reports the delivered one. Requests served one after
another get an outcome each. If no handler or stage looks at a meter, they offer the sink what
they would offer it alone, and against a steady sink they deliver and report the same. -/
theorem serve_one_response (r : Router) (sink : Sink) :
    (∀ fresh request log, ∃ outcome after sent,
      r.serve sink fresh request log = (.ok outcome, after) ∧
      after.delivered = log.delivered ++ sent ∧ sent.length ≤ 1 ∧
      (sink.TakesAll →
        (∀ status, outcome.status = some status ↔
          ∃ response : Response, sent = [response] ∧ response.status = status) ∧
        (outcome.status = none ↔ sent = []))) ∧
    ∀ fresh requests log,
      (r.serveAll sink fresh 0 requests log).1.map DispatchOutcome.id =
        requests.zipIdx.map (fun (request, i) => requestId r.settings (fresh i) request) ∧
      (r.root.IgnoresMeters →
        (r.serveAll sink fresh 0 requests log).2.offered =
          log.offered ++ requests.zipIdx.flatMap (fun (request, i) =>
            (r.serve sink (fresh i) request {}).2.offered) ∧
        (sink.Steady →
          (r.serveAll sink fresh 0 requests log).2.delivered =
            log.delivered ++ requests.zipIdx.flatMap (fun (request, i) =>
              (r.serve sink (fresh i) request {}).2.delivered) ∧
          (r.serveAll sink fresh 0 requests log).1.map .ok =
            requests.zipIdx.map fun (request, i) =>
              (r.serve sink (fresh i) request {}).1)) := by
  refine ⟨fun fresh request log => ?_, fun fresh requests log => ⟨?_, fun ignores => ⟨?_, ?_⟩⟩⟩
  · obtain ⟨outcome, ended, -, status, after⟩ := serve_spec r sink fresh request log
    refine ⟨outcome, (r.serve sink fresh request log).2,
      ((r.offerOf fresh request log).filter (sink.takes log.offered)).toList,
      Prod.ext ended rfl, after.delivered_eq, ?_, fun takesAll => ?_⟩
    · cases (r.offerOf fresh request log).filter (sink.takes log.offered) <;> simp
    · rw [status takesAll, after.committed_eq]
      cases r.offerOf fresh request log with
      | none => simp
      | some response => simp [Option.filter, takesAll.takes]
  · exact serveAll_ids r sink fresh 0 requests log
  · exact serveAll_offered ignores sink fresh 0 requests log
  · intro steady
    exact ⟨serveAll_delivered ignores steady fresh 0 requests log,
      serveAll_outcomes ignores steady fresh 0 requests log⟩

/-- Sends twice and then crashes. -/
def insistent : Handler := fun _ draft =>
  .send (draft.complete "first") fun _ => .send (draft.complete "second") fun _ =>
    .crash (.text "gave up")

def insistentRouter : Router :=
  ⟨.layer .serverFault (.bind "/a" (.endpoint (.ofHandler .get insistent))), {}, []⟩

theorem serve_one_response_insistent :
    let sink := Sink.memory
    let requests : List Request := [⟨.get, "/a", [], []⟩, ⟨.get, "/..", [], []⟩]
    sink.TakesAll ∧ sink.Steady ∧ insistentRouter.root.IgnoresMeters ∧
      (∃ outcome after sent, insistentRouter.serve sink default ⟨.get, "/a", [], []⟩ {} =
          (.ok outcome, after) ∧
        after.delivered = [] ++ sent ∧ (outcome.status = none ↔ sent = [])) ∧
      (insistentRouter.serveAll sink (fun _ => default) 0 requests {}).2.delivered.map
        (fun response => (response.status, response.body)) =
          [(200, "first"), (400, illegalTargetBody)] := by
  have takesAll : Sink.memory.TakesAll := fun _ _ => rfl
  have steady : Sink.memory.Steady := fun _ _ _ => rfl
  have ignores : insistentRouter.root.IgnoresMeters :=
    ⟨trivial, fun _ _ _ _ => trivial⟩
  obtain ⟨each, all⟩ := serve_one_response insistentRouter Sink.memory
  refine ⟨takesAll, steady, ignores, ?_, ?_⟩
  · obtain ⟨outcome, after, sent, served, delivered, -, status⟩ :=
      each default ⟨.get, "/a", [], []⟩ {}
    exact ⟨outcome, after, sent, served, delivered, (status takesAll).2⟩
  · obtain ⟨-, alone⟩ := all (fun _ => default) [⟨.get, "/a", [], []⟩, ⟨.get, "/..", [], []⟩] {}
    rw [((alone ignores).2 steady).1]
    rfl

end Router

end RequestRouter
