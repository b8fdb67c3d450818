import RequestRouter.Proofs.Router.Shown
import RequestRouter.Proofs.Tree.BodyDecision
import RequestRouter.Proofs.Tree.Undeclared

/-!
# Nothing undeclared is lost

Of the cookies, the body fields and the parameters that a request brings, a handler finds those that
a schema above it declares in the record of their parser, and the others among the extensions.
-/

namespace RequestRouter

/-- What a handler is shown of the fields of a request, below the layers of its leaf, where the
patterns have bound `bound`. -/
structure Leaf.Keeps (leaf : Leaf) (request : Request) (bound : Record) (shown : RequestState) :
    Prop where
  /-- The extensions are what layers and endpoint leave undeclared, added up from the outside. -/
  extensions_eq : shown.extensions = Record.unionAll .empty (leaf.undeclared request bound)
  /-- Of a name that is left undeclared more than once the innermost value counts. -/
  innermost : ∀ name, shown.extensions.get? name =
    (leaf.undeclared request bound).reverse.findSome? (·.get? name)
  /-- Every body parser on the way has read the body, so that it has a part in the extensions. -/
  read : ∀ schema policy, .jsonBody schema policy ∈ leaf.layers →
    ∃ fields, Layer.bodyFields? request.body = some fields
  /-- The last cookie parser has left its record in the mixin. -/
  cookies : ∀ outer schema inner, leaf.layers = outer ++ .cookies schema :: inner →
    (∀ schema, .cookies schema ∉ inner) →
    ∃ held, shown.cookies? = some held ∧
      Layer.Attached schema (Cookie.parse request.headers) held
  /-- The last body parser has left its record as the body. -/
  body : ∀ outer schema policy inner, leaf.layers = outer ++ .jsonBody schema policy :: inner →
    (∀ schema policy, .jsonBody schema policy ∉ inner) →
    ∃ fields held, Layer.bodyFields? request.body = some fields ∧
      shown.body = .structured held ∧ fields.Filled schema held

theorem Leaf.keeps_of_prepare {leaf : Leaf} {s arriving shown : RequestState}
    (start : s.extensions = .empty) (arrives : leaf.arrive s = some arriving)
    (prepared : Endpoint.prepare leaf.endpoint.declares arriving = .ok shown) :
    leaf.Keeps s.request arriving.params shown := by
  obtain ⟨body, mixins, extensions⟩ := Endpoint.extensions_of_prepare prepared
  have whole : shown.extensions =
      Record.unionAll .empty (leaf.undeclared s.request arriving.params) := by
    rw [extensions, extensions_of_arrive arrives, start]
    exact List.foldl_append.symm
  refine ⟨whole, fun name => ?_, fun schema policy onWay => bodyFields?_of_arrive arrives onWay,
    fun outer schema inner layers last => ?_, fun outer schema policy inner layers last => ?_⟩
  · rw [whole, Record.get?_unionAll, Table.get?_empty, Option.or_none]
  · rw [RequestState.cookies?, RequestState.mixin?, mixins]
    exact attached_of_arrive arrives layers last
  · rw [body]
    exact filled_of_arrive arrives layers last

namespace Router

def noteEndpoint : Endpoint where
  declares := { method := .post, params := .single "id" .integer, policy := some .lenient }
  handler := fun _ _ => .done (.ok ())

def noteTree : RouteTree :=
  .bind "/notes/:id/:x" (.layer (.cookies (some (.single "sid" .string)))
    (.layer (.jsonBody (.single "b" .integer) .lenient) (.endpoint noteEndpoint)))

def noteLeaf : Leaf where
  way := [.pattern "/notes/:id/:x", .layer (.cookies (some (.single "sid" .string))),
    .layer (.jsonBody (.single "b" .integer) .lenient)]
  endpoint := noteEndpoint

def noteRouter : Router :=
  ⟨noteTree, {}, noteTree.describe ""⟩

/-- The body has the name `a` of a cookie, the path the name `x` of another one. -/
def noteRequest : Request :=
  ⟨.post, "/notes/7/p", [⟨"cookie", "a=1; x=2; c=3; sid=4"⟩], Layer.sevenBody⟩

def noteParams : Record :=
  .ofList [("id", .string "7"), ("x", .string "p")]

theorem undeclared_noteLeaf : noteLeaf.undeclared noteRequest noteParams =
    [.ofList [("a", .string "1"), ("x", .string "2"), ("c", .string "3")],
      .single "a" (.string "7"), .single "x" (.string "p")] := by
  have fromCookies : Layer.undeclared? noteRequest (.cookies (some (.single "sid" .string))) =
      some (.ofList [("a", .string "1"), ("x", .string "2"), ("c", .string "3")]) := rfl
  have fromBody : Layer.undeclared? noteRequest (.jsonBody (.single "b" .integer) .lenient) =
      some (.single "a" (.string "7")) :=
    congrArg (Option.map fun fields => Table.subtract fields _) Layer.bodyFields?_sevenBody
  show List.filterMap _ [_, _] ++ _ = _
  rw [List.filterMap_cons_some fromCookies, List.filterMap_cons_some fromBody]
  rfl

end Router

end RequestRouter
