import RequestRouter.Proofs.Router.FirstLeaf
import RequestRouter.Proofs.Tree.Arrival

/-!
# What handlers are shown

A handler that is entered sees a path that is used up, and every parameter that a pattern above it
captured: among the parameters or among the extensions.
-/

namespace RequestRouter

/-- A text field holds a string. -/
theorem Record.get?_of_text? {r : Record} {name text : String} (h : r.text? name = some text) :
    r.get? name = some (.string text) := by
  obtain ⟨v, given, read⟩ := Option.bind_eq_some_iff.1 h
  cases v with
  | string s =>
    cases read
    exact given
  | null | bool _ | number _ | array _ | object _ => cases read

/-- A leaf enters its handler with the request that arrived, prepared. -/
theorem Leaf.visit_of_entered {leaf : Leaf} {s : RequestState} {draft : Draft} {visit : Visit}
    (h : visit ∈ leaf.entered s draft) : visit.endpoint = leaf.endpoint ∧
      ∃ arriving, leaf.arrive s = some arriving ∧
        Endpoint.prepare leaf.endpoint.declares arriving = .ok visit.request := by
  unfold entered at h
  cases arrives : leaf.arrive s with
  | none => simp [arrives] at h
  | some arriving =>
    rw [arrives] at h
    unfold Endpoint.entered at h
    cases converted : Endpoint.prepare leaf.endpoint.declares arriving with
    | error cause => simp [converted] at h
    | ok prepared =>
      obtain rfl : visit = ⟨leaf.endpoint, prepared, draft⟩ := by simpa [converted] using h
      exact ⟨rfl, arriving, rfl, converted⟩

namespace Router

/-- Reads the number of a member; the name of the team is an outer parameter of the same name. -/
def memberEndpoint : Endpoint where
  declares := { method := .get, params := .single "id" .integer }
  handler := fun _ _ => .done (.ok ())

def memberTree : RouteTree :=
  .bind "/team/:id/:role" (.layer .tracing (.group [.null, .bind "/member/:id"
    (.endpoint memberEndpoint)]))

def memberRouter : Router :=
  ⟨memberTree, {}, memberTree.describe ""⟩

end Router

end RequestRouter
