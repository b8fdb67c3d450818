import RequestRouter.Proofs.Router.FirstLeaf
import RequestRouter.Proofs.Tree.Sites

/-!
# Building a router

A router is built of every tree whose patterns compile and whose endpoints find what they declare
above them, and of no other. Otherwise the error is that of the first site at which the tree is
wrong.
-/

namespace RequestRouter.Router

theorem build_eq_ok_iff {t : RouteTree} {settings : Settings} :
    (∃ r, build t settings = .ok r) ↔ ∀ site ∈ t.sites, site.Sound := by
  simp only [← Site.check_eq_ok_iff, ← except_forM_eq_ok_iff, ← RouteTree.check_eq_walk]
  constructor
  · rintro ⟨r, built⟩
    exact (parts_of_build built).2.2.2
  · intro checked
    exact ⟨_, except_map_eq_ok_iff.2 ⟨(), checked, rfl⟩⟩

theorem build_eq_error_iff {t : RouteTree} {settings : Settings} {e : RouteError} :
    build t settings = .error e ↔ ∃ before site after, t.sites = before ++ site :: after ∧
      (∀ earlier ∈ before, earlier.Sound) ∧ site.Fault e := by
  rw [build, except_map_eq_error_iff, RouteTree.check_eq_walk, except_forM_eq_error_iff]
  simp only [Site.check_eq_ok_iff, Site.check_eq_error_iff]

/-- A router is built iff every pattern compiles and every endpoint is served by the nodes above
it; if it is not, the first site that is wrong decides the error. The parameters that an endpoint
lacks are listed in increasing order. -/
theorem build_exact (t : RouteTree) (settings : Settings) :
    ((∃ r, build t settings = .ok r) ↔ ∀ site ∈ t.sites, site.Sound) ∧
      (∀ e, build t settings = .error e ↔ ∃ before site after,
        t.sites = before ++ site :: after ∧ (∀ earlier ∈ before, earlier.Sound) ∧ site.Fault e) ∧
      ∀ leaf : Leaf, leaf.unbound.Pairwise (· < ·) :=
  ⟨build_eq_ok_iff, fun _ => build_eq_error_iff, Leaf.unbound_increasing⟩

/-- The first endpoint has its parameter, but the cookies above it are attached without a schema;
the pattern after it is not reached. -/
example :
    let e := ((Endpoint.ofHandler .get fun _ _ => .done (.ok ())).requiresParams
      (.single "id" .any)).requiresMixin cookiesMixin (.single "name" .string)
    build (.group [.bind "/:id" (.layer (.cookies none) (.endpoint e)), .bind "/:" .null]) {} =
      .error (.missingMixins "GET /:id" ["cookies.name"]) := rfl

end RequestRouter.Router
