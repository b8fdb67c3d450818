import RequestRouter.Proofs.Router.FirstLeaf
import RequestRouter.Proofs.Tree.Declaration

/-!
# Requirements at run time

In a router that was built, a handler finds all that its endpoint declares.
-/

namespace RequestRouter.Router

/-- A router of standard layers enters the handlers of one of its leaves, or none. -/
theorem serve_visits_cases {r : Router} (standard : r.root.Standard) (sink : Sink)
    (fresh : RequestId) (request : Request) (log : Log) :
    (r.serve sink fresh request log).2.visits = log.visits ∨
      ∃ leaf ∈ r.root.leaves, (r.serve sink fresh request log).2.visits =
        log.visits ++ leaf.entered (r.entry fresh request) (r.firstDraft fresh request) :=
  (serve_visits_of_firstLeaf standard sink fresh request log).imp_right
    fun ⟨leaf, first, visits⟩ => ⟨leaf, List.mem_of_find?_eq_some first, visits⟩

def userEndpoint : Endpoint where
  declares :=
    { method := .post
      params := .single "id" .integer
      body := some (.single "age" .integer)
      mixins := .single cookiesMixin (.single "name" .string)
      policy := some .strict }
  handler := fun _ _ => .done (.ok ())

/-- The inner body parser takes the place of the outer one. -/
def userTree : RouteTree :=
  .layer (.jsonBody (.single "text" .any) .lenient)
    (.layer (.cookies (some (.single "name" .string)))
      (.group [.bind "/user/:id/" (.layer (.jsonBody (.single "age" .integer) .lenient)
        (.bind ":tail" (.endpoint userEndpoint)))]))

def userRouter : Router :=
  ⟨userTree, {}, userTree.describe ""⟩

end RequestRouter.Router
