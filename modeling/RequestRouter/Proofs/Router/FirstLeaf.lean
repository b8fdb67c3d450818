import RequestRouter.Proofs.Router.Dispatch

/-!
# The first leaf

A router runs the first leaf that accepts a request, once, and no other. A request that no leaf
accepts, or that the gate stops, runs none.
-/

namespace RequestRouter.Router

theorem parts_of_build {t : RouteTree} {settings : Settings} {r : Router}
    (h : build t settings = .ok r) :
    r.root = t ∧ r.settings = settings ∧ r.routes = t.describe "" ∧ t.check .root = .ok () := by
  obtain ⟨_, checked, rfl⟩ := except_map_eq_ok_iff.1 h
  exact ⟨rfl, rfl, rfl, checked⟩

/-- What a request enters, in the words of the leaf that comes first. -/
theorem serve_visits {r : Router} (standard : r.root.Standard) (sink : Sink) (fresh : RequestId)
    {request : Request} (log : Log) {leaf : Leaf} (admits : r.Admits request)
    (first : r.root.firstLeaf request.method request.path = some leaf) :
    (r.serve sink fresh request log).2.visits =
      log.visits ++ leaf.entered (r.entry fresh request) (r.firstDraft fresh request) :=
  dispatch_enters standard fresh admits first sink log.nextExchange

theorem serve_visits_of_idle {r : Router} (standard : r.root.Standard) (sink : Sink)
    (fresh : RequestId) {request : Request} (log : Log)
    (idle : ¬ r.Admits request ∨ r.root.firstLeaf request.method request.path = none) :
    (r.serve sink fresh request log).2.visits = log.visits := by
  have enters : (r.dispatch fresh request).Enters [] :=
    idle.elim (dispatch_enters_of_not_admits fresh) (dispatch_enters_of_no_leaf standard fresh)
  exact (enters sink log.nextExchange).trans (List.append_nil _)

/-- A router of standard layers enters what the first leaf that accepts the request enters, or
nothing. -/
theorem serve_visits_of_firstLeaf {r : Router} (standard : r.root.Standard) (sink : Sink)
    (fresh : RequestId) (request : Request) (log : Log) :
    (r.serve sink fresh request log).2.visits = log.visits ∨
      ∃ leaf, r.root.firstLeaf request.method request.path = some leaf ∧
        (r.serve sink fresh request log).2.visits =
          log.visits ++ leaf.entered (r.entry fresh request) (r.firstDraft fresh request) := by
  by_cases admits : r.Admits request
  · cases first : r.root.firstLeaf request.method request.path with
    | none => exact Or.inl (serve_visits_of_idle standard sink fresh log (Or.inr first))
    | some leaf => exact Or.inr ⟨leaf, rfl, serve_visits standard sink fresh log admits first⟩
  · exact Or.inl (serve_visits_of_idle standard sink fresh log (Or.inl admits))

/-- Three leaves, of which the last two accept `GET /a`; a body parser stands above the second. -/
def threeLeaves : RouteTree :=
  .layer .notFound (.group [
    .bind "/a" (.endpoint (.ofHandler .post fun _ _ => .done (.ok ()))),
    .group [.bind "/:x" (.layer (.jsonBody .empty .lenient)
      (.endpoint (.ofHandler .get fun _ _ => .done (.ok ()))))],
    .bind "/a" (.endpoint (.ofHandler .get fun _ _ => .crash .other))])

def threeLeavesRouter : Router :=
  ⟨threeLeaves, {}, threeLeaves.describe ""⟩

end RequestRouter.Router
