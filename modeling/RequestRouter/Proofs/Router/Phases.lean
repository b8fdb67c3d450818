import RequestRouter.Proofs.Router.Build
import RequestRouter.Proofs.Tree.RunErrors

/-!
# Errors of the two phases

The errors with which a tree is rejected and those with which a router's tree ends are told apart
by their kind.
-/

namespace RequestRouter.Router

/-- A tree is rejected with an error of construction. The tree of a router, invoked with whatever
request, ends in no such error: neither its handlers, which can fail with any error or crash, nor
the sink can make it do so. -/
theorem error_phases {root : RouteTree} (standard : root.Standard) (settings : Settings) :
    (∀ e, build root settings = .error e → e.isConstruction = true) ∧
    ∀ r, build root settings = .ok r → ∀ s draft sink log e,
      Layer.outcomeOf ((r.root.invoke s draft).run sink log).1 = .error e →
        e.isConstruction = false := by
  constructor
  · intro e rejected
    obtain ⟨before, site, after, listed, sound, wrong⟩ := build_eq_error_iff.1 rejected
    exact wrong.isConstruction
  · intro r built s draft sink log e failed
    obtain ⟨rfl, -⟩ := parts_of_build built
    exact pastConstruction_outcomeOf (r.root.invoke_pastConstruction standard s draft sink log) e
      failed

def unboundEndpoint : Endpoint :=
  (Endpoint.ofHandler .get fun _ _ => .done (.ok ())).requiresParams (.single "id" .integer)

/-- The first handler fails with the words of an error of construction, the second one crashes; the
third needs a number. -/
def failingTree : RouteTree :=
  .layer (.metrics "calls") (.group [
    .bind "/fails" (.endpoint (.ofHandler .get fun _ _ =>
      .done (.error ⟨(RouteError.missingParams "GET /" ["id"]).message, []⟩))),
    .bind "/crashes" (.endpoint (.ofHandler .get fun _ _ => .crash (.text "out of range"))),
    .bind "/:id" (.endpoint (unboundEndpoint.withPolicy .strict))])

def failingTree.outcome (target : String) : Except RouteError Bool :=
  Layer.outcomeOf ((failingTree.invoke (.start ⟨.get, target, [], []⟩ default) .fresh).run .memory
    {}).1

theorem error_phases_of_failing_tree :
    let unbound := RouteError.missingParams "GET /" ["id"]
    build (.endpoint unboundEndpoint) {} = .error unbound ∧ unbound.isConstruction = true ∧
    (∃ r, build failingTree {} = .ok r) ∧ ∀ target ∈ ["/fails", "/crashes", "/x", "/x/y"],
      ∃ e, failingTree.outcome target = .error e ∧ e.isConstruction = false := by
  intro unbound
  have standardLeaf : (RouteTree.endpoint unboundEndpoint).Standard := trivial
  have standard : failingTree.Standard := ⟨trivial, trivial, trivial, trivial, trivial⟩
  have rejected : build (.endpoint unboundEndpoint) {} = .error unbound := rfl
  have built : build failingTree {} = .ok ⟨failingTree, {}, failingTree.describe ""⟩ := rfl
  have fails : ∀ target ∈ ["/fails", "/crashes", "/x", "/x/y"],
      (failingTree.outcome target).isOk = false := by decide +kernel
  obtain ⟨rejects, -⟩ := error_phases standardLeaf {}
  obtain ⟨-, runs⟩ := error_phases standard {}
  refine ⟨rejected, rejects _ rejected, ⟨_, built⟩, fun target listed => ?_⟩
  have failed := fails target listed
  cases ended : failingTree.outcome target with
  | ok handled => simp [ended, Except.isOk, Except.toBool] at failed
  | error e => exact ⟨e, rfl, runs _ built _ _ _ _ e ended⟩

end RequestRouter.Router
