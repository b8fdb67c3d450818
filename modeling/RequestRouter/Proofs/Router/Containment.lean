import RequestRouter.Proofs.Except
import RequestRouter.Proofs.Exchange.Course
import RequestRouter.Router.Basic

/-!
# Containment

A dispatch contains the failures of its tree as a fault boundary does. So a boundary around the
whole tree has nothing left to do: the router with it and the router without it are built alike and
answer every request alike.
-/

namespace RequestRouter.Router

/-- Nothing that a boundary hands on is left to contain. -/
theorem contain_serverFault (next : Next) (s : RequestState) (draft : Draft) :
    contain draft (Layer.serverFault.call next s draft) = contain draft (next.run s draft) := by
  show ((Course.bind (next.run s draft).attempt _).attempt).bind _ =
    (next.run s draft).attempt.bind _
  rw [Course.attempt_attempt_bind, Course.bind_assoc]
  congr 1
  funext result
  cases Layer.outcomeOf result with
  | ok handled => rfl
  | error cause =>
    show Course.committed _ = Course.committed _
    congr 1
    funext status
    cases status <;> rfl

/-- The gate and the choice whether to ask the tree do not see the boundary either. -/
theorem dispatch_wrap_serverFault (t : RouteTree) (settings : Settings)
    (routes routes' : List RouteDescription) :
    dispatch ⟨t.wrap .serverFault, settings, routes'⟩ = dispatch ⟨t, settings, routes⟩ := by
  funext fresh request
  unfold dispatch
  have answers : (t.wrap .serverFault).answersUnmatched = t.answersUnmatched := rfl
  simp only [answers]
  simp only [RouteTree.wrap, RouteTree.accepts, RouteTree.invoke, contain_serverFault]

/-- Routers that dispatch alike serve every list of requests alike. -/
theorem serveAll_congr {r r' : Router} (same : r'.dispatch = r.dispatch) (sink : Sink)
    (fresh : Nat → RequestId) (place : Nat) (requests : List Request) (log : Log) :
    r'.serveAll sink fresh place requests log = r.serveAll sink fresh place requests log := by
  induction requests generalizing place log with
  | nil => rfl
  | cons request rest ih => simp only [serveAll, serve, same, ih]

/-- A fault boundary around the whole tree makes no difference. The tree with it fails to build
with the same error, or builds a router with the same routes; and against every sink this router
reports of every request what the other one does, and leaves the same log: the same responses
offered and delivered, the same handlers entered, the same meters. -/
theorem serve_wrap_serverFault (t : RouteTree) (settings : Settings) :
    (∀ cause, build (t.wrap .serverFault) settings = .error cause ↔
      build t settings = .error cause) ∧
    ∀ r, build t settings = .ok r → ∃ r', build (t.wrap .serverFault) settings = .ok r' ∧
      r'.routes = r.routes ∧ ∀ sink,
        (∀ fresh request log, r'.serve sink fresh request log = r.serve sink fresh request log) ∧
        ∀ fresh place requests log, r'.serveAll sink fresh place requests log =
          r.serveAll sink fresh place requests log := by
  have checked : (t.wrap .serverFault).check .root = t.check .root := rfl
  have described : (t.wrap .serverFault).describe "" = t.describe "" := rfl
  constructor
  · intro cause
    rw [build, build, checked, except_map_eq_error_iff, except_map_eq_error_iff]
  · intro r built
    obtain ⟨_, passed, rfl⟩ := except_map_eq_ok_iff.1 built
    have same := dispatch_wrap_serverFault t settings (t.describe "") (t.describe "")
    refine ⟨⟨t.wrap .serverFault, settings, t.describe ""⟩, ?_, rfl, fun sink => ⟨?_, ?_⟩⟩
    · rw [build, checked, described, passed]
      rfl
    · intro fresh request log
      rw [serve, serve, same]
    · exact serveAll_congr same sink

/-- One endpoint that crashes, one that fails after its response, behind a layer that answers 404. -/
def faultyTree : RouteTree :=
  .layer .notFound (.group [
    .bind "/crash" (.endpoint (.ofHandler .get fun _ _ => .crash .other)),
    .bind "/late" (.endpoint (.ofHandler .get fun _ draft =>
      .send (draft.complete "early") fun _ => .done (.error ⟨"late", []⟩)))])

theorem serve_wrap_serverFault_faulty :
    let r : Router := ⟨faultyTree, {}, faultyTree.describe ""⟩
    let requests : List Request := ["/crash", "/late", "/none"].map (⟨.get, ·, [], []⟩)
    build faultyTree {} = .ok r ∧ ∃ r', build (faultyTree.wrap .serverFault) {} = .ok r' ∧
      r'.routes = r.routes ∧
      (r'.serveAll .memory (fun _ => default) 0 requests {}).1.map
          (fun outcome => (outcome.handled, outcome.status)) =
        [(false, some 500), (false, some 200), (true, some 404)] := by
  intro r requests
  have built : build faultyTree {} = .ok r := rfl
  obtain ⟨-, builds⟩ := serve_wrap_serverFault faultyTree {}
  obtain ⟨r', built', routes, serves⟩ := builds r built
  refine ⟨built, r', built', routes, ?_⟩
  rw [(serves .memory).2]
  decide +kernel

end RequestRouter.Router
