import RequestRouter.Tree.Basic

/-!
# Shapes of trees

Induction over route trees, what holds of all endpoints and layers of a tree, and the functions on
the members of a group as functions on lists.
-/

namespace RequestRouter

namespace RouteTree

/-- Induction with a hypothesis for every member of a group. -/
@[elab_as_elim]
theorem induct {P : RouteTree → Prop} (endpoint : ∀ e, P (.endpoint e))
    (bind : ∀ pattern nested, P nested → P (.bind pattern nested))
    (group : ∀ members, (∀ t ∈ members, P t) → P (.group members))
    (null : P .null) (layer : ∀ l nested, P nested → P (.layer l nested)) (t : RouteTree) : P t :=
  match t with
  | .endpoint e => endpoint e
  | .bind pattern nested => bind pattern nested (induct endpoint bind group null layer nested)
  | .group members => group members fun t _ => induct endpoint bind group null layer t
  | .null => null
  | .layer l nested => layer l nested (induct endpoint bind group null layer nested)

mutual

/-- Every endpoint of the tree satisfies `onEndpoint`, every layer `onLayer`. -/
def Everywhere (onEndpoint : Endpoint → Prop) (onLayer : Layer → Prop) : RouteTree → Prop
  | .endpoint e => onEndpoint e
  | .bind _ nested => Everywhere onEndpoint onLayer nested
  | .group members => EverywhereIn onEndpoint onLayer members
  | .null => True
  | .layer l nested => onLayer l ∧ Everywhere onEndpoint onLayer nested

def EverywhereIn (onEndpoint : Endpoint → Prop) (onLayer : Layer → Prop) : List RouteTree → Prop
  | [] => True
  | t :: rest => Everywhere onEndpoint onLayer t ∧ EverywhereIn onEndpoint onLayer rest

end

theorem everywhereIn_iff {onEndpoint : Endpoint → Prop} {onLayer : Layer → Prop}
    {members : List RouteTree} :
    EverywhereIn onEndpoint onLayer members ↔ ∀ t ∈ members, Everywhere onEndpoint onLayer t := by
  induction members with
  | nil => simp [EverywhereIn]
  | cons t rest ih => simp [EverywhereIn, ih]

theorem acceptsAny_eq_any (members : List RouteTree) (method : Method) (path : List Char) :
    acceptsAny members method path = members.any fun t => accepts t method path := by
  induction members with
  | nil => rfl
  | cons t rest ih => rw [acceptsAny, ih, List.any_cons]

theorem invokeFirst_eq_find (members : List RouteTree) (s : RequestState) (draft : Draft) :
    invokeFirst members s draft =
      match members.find? fun t => accepts t s.method s.remaining.toList with
      | some t => invoke t s draft
      | none => unmatched s := by
  induction members with
  | nil => rfl
  | cons t rest ih =>
    rw [invokeFirst, List.find?_cons]
    cases accepts t s.method s.remaining.toList with
    | true => rfl
    | false => exact ih

theorem checkAll_eq_ok_iff {members : List RouteTree} {scope : Scope} :
    checkAll members scope = .ok () ↔ ∀ t ∈ members, check t scope = .ok () := by
  induction members with
  | nil => simp [checkAll]
  | cons t rest ih =>
    rw [checkAll, List.forall_mem_cons, ← ih]
    cases check t scope with
    | ok _ => simp
    | error _ => simp

theorem describeAll_eq_flatMap (members : List RouteTree) (path : String) :
    describeAll members path = members.flatMap fun t => describe t path := by
  induction members with
  | nil => rfl
  | cons t rest ih => rw [describeAll, ih, List.flatMap_cons]

section Cons

variable (t : RouteTree) (rest : List RouteTree)

theorem accepts_group_cons (method : Method) (path : List Char) :
    (RouteTree.group (t :: rest)).accepts method path =
      (t.accepts method path || (RouteTree.group rest).accepts method path) := by
  rw [accepts, acceptsAny, accepts]

theorem invoke_group_cons (s : RequestState) (draft : Draft) :
    (RouteTree.group (t :: rest)).invoke s draft =
      if t.accepts s.method s.remaining.toList then t.invoke s draft
      else (RouteTree.group rest).invoke s draft := by
  rw [invoke, invokeFirst, invoke]

theorem check_group_cons (scope : Scope) :
    (RouteTree.group (t :: rest)).check scope =
      match t.check scope with
      | .ok () => (RouteTree.group rest).check scope
      | .error e => .error e := by
  cases passed : t.check scope <;> simp [check, checkAll, passed]

theorem describe_group_cons (path : String) :
    (RouteTree.group (t :: rest)).describe path =
      t.describe path ++ (RouteTree.group rest).describe path := by
  rw [describe, describeAll, describe]

end Cons

end RouteTree

/-- A layer that is no function of its own: one of those that the library provides. -/
def Layer.Standard : Layer → Prop
  | .custom _ => False
  | _ => True

/-- A tree of standard layers, with any endpoints. -/
def RouteTree.Standard : RouteTree → Prop :=
  RouteTree.Everywhere (fun _ => True) Layer.Standard

end RequestRouter
