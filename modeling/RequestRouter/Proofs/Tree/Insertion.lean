import RequestRouter.Proofs.Tree.Shape

/-!
# Inserted layers

A tree with more layers than another one, at any places, accepts the same requests. If the new
layers provide nothing, it also passes the same check and describes the same endpoints. Whether it
answers requests that it does not accept depends on the layers above its first pattern or group.
-/

namespace RequestRouter.RouteTree

/-- The second tree is the first one with layers of `p` inserted, at any places and any number of
them. -/
inductive Inserted (p : Layer → Prop) : RouteTree → RouteTree → Prop
  | endpoint (e : Endpoint) : Inserted p (.endpoint e) (.endpoint e)
  | bind (pattern : String) {nested nested' : RouteTree} (below : Inserted p nested nested') :
      Inserted p (.bind pattern nested) (.bind pattern nested')
  | groupNil : Inserted p (.group []) (.group [])
  | groupCons {t t' : RouteTree} {rest rest' : List RouteTree} (first : Inserted p t t')
      (others : Inserted p (.group rest) (.group rest')) :
      Inserted p (.group (t :: rest)) (.group (t' :: rest'))
  | null : Inserted p .null .null
  | layer (l : Layer) {nested nested' : RouteTree} (below : Inserted p nested nested') :
      Inserted p (.layer l nested) (.layer l nested')
  | insert {l : Layer} {t t' : RouteTree} (new : p l) (below : Inserted p t t') :
      Inserted p t (.layer l t')

/-- The same, with every new layer below some pattern or group. -/
inductive InsertedBelow (p : Layer → Prop) : RouteTree → RouteTree → Prop
  | endpoint (e : Endpoint) : InsertedBelow p (.endpoint e) (.endpoint e)
  | bind (pattern : String) {nested nested' : RouteTree} (below : Inserted p nested nested') :
      InsertedBelow p (.bind pattern nested) (.bind pattern nested')
  | group {members members' : List RouteTree}
      (below : Inserted p (.group members) (.group members')) :
      InsertedBelow p (.group members) (.group members')
  | null : InsertedBelow p .null .null
  | layer (l : Layer) {nested nested' : RouteTree} (below : InsertedBelow p nested nested') :
      InsertedBelow p (.layer l nested) (.layer l nested')

variable {p : Layer → Prop} {t t' : RouteTree}

namespace Inserted

theorem accepts_eq (h : Inserted p t t') (method : Method) (path : List Char) :
    t'.accepts method path = t.accepts method path := by
  induction h generalizing path with
  | endpoint e => rfl
  | bind pattern below ih => simp only [accepts, ih]
  | groupNil => rfl
  | groupCons first others ih ihs => rw [accepts_group_cons, accepts_group_cons, ih, ihs]
  | null => rfl
  | layer l below ih => exact ih path
  | insert new below ih => exact ih path

/-- Layers that provide nothing leave the check as it is. -/
theorem check_eq (h : Inserted p t t') (silent : ∀ l scope, p l → l.scope scope = scope)
    (scope : Scope) : t'.check scope = t.check scope := by
  induction h generalizing scope with
  | endpoint e => rfl
  | bind pattern below ih => simp only [check, ih]
  | groupNil => rfl
  | groupCons first others ih ihs => rw [check_group_cons, check_group_cons, ih, ihs]
  | null => rfl
  | layer l below ih => exact ih (l.scope scope)
  | @insert l t t' new below ih =>
    rw [check, silent l scope new]
    exact ih scope

theorem describe_eq (h : Inserted p t t') (path : String) :
    t'.describe path = t.describe path := by
  induction h generalizing path with
  | endpoint e => rfl
  | bind pattern below ih => exact ih (path ++ pattern)
  | groupNil => rfl
  | groupCons first others ih ihs => rw [describe_group_cons, describe_group_cons, ih, ihs]
  | null => rfl
  | layer l below ih => exact ih path
  | insert new below ih => exact ih path

/-- So do layers that answer nothing by themselves. -/
theorem answersUnmatched_eq (h : Inserted p t t') (quiet : ∀ l, p l → l.answersUnmatched = false) :
    t'.answersUnmatched = t.answersUnmatched := by
  induction h with
  | endpoint e | bind pattern below ih | groupNil | groupCons first others ih ihs | null => rfl
  | layer l below ih => rw [answersUnmatched, answersUnmatched, ih]
  | @insert l t t' new below ih => rw [answersUnmatched, quiet l new, ih, Bool.false_or]

end Inserted

namespace InsertedBelow

theorem inserted (h : InsertedBelow p t t') : Inserted p t t' := by
  induction h with
  | endpoint e => exact .endpoint e
  | bind pattern below => exact .bind pattern below
  | group below => exact below
  | null => exact .null
  | layer l below ih => exact .layer l ih

/-- A layer below a pattern or a group has no say in which unmatched requests the tree answers. -/
theorem answersUnmatched_eq (h : InsertedBelow p t t') :
    t'.answersUnmatched = t.answersUnmatched := by
  induction h with
  | endpoint e | bind pattern below | group below | null => rfl
  | layer l below ih => rw [answersUnmatched, answersUnmatched, ih]

end InsertedBelow

end RequestRouter.RouteTree
