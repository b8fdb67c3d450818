import RequestRouter.Proofs.Pattern.Greedy
import RequestRouter.Proofs.Tree.Shape

/-!
# Leaves

The endpoints of a tree, each with the patterns and layers on the way to it. A leaf by itself says
which requests it accepts: its patterns take the path one after another and leave nothing. A tree
accepts what one of its leaves accepts, and describes its leaves in their order.
-/

namespace RequestRouter

namespace Pattern

/-- What the pattern leaves of a path, cut off by the length of the match. -/
def leftOf (source path : String) : Option String :=
  match compile source with
  | .ok p => (p.prefixLength path).map fun n => String.ofList (Utf8.splitAt n path.toList).2
  | .error _ => none

/-- A cut by the length of the match leaves what the match left. -/
theorem splitAt_of_match {source : String} {p : Pattern} (compiled : Compiled source p)
    {cs left : List Char} {captures : Captures}
    (found : findMatch p.tokens cs = some (captures, left)) :
    (Utf8.splitAt (Utf8.length cs - Utf8.length left) cs).2 = left := by
  rw [findMatch_eq] at found
  obtain ⟨-, spelled⟩ := greatest_of_matchTokens compiled.nodup found
  rw [← spelled, Utf8.length_append, Nat.add_sub_cancel, Utf8.splitAt_length_append]

theorem leftBy_eq_leftOf (source path : String) :
    RouteTree.leftBy source path.toList = (leftOf source path).map String.toList := by
  unfold RouteTree.leftBy leftOf
  cases compiled : compile source with
  | error _ => rfl
  | ok p =>
    simp only [prefixLength, Option.map_map]
    cases found : findMatch p.tokens path.toList with
    | none => rfl
    | some result =>
      have left := splitAt_of_match (compiled_of_compile compiled) found
      simp [left]

end Pattern

/-- One node on the way to an endpoint. -/
inductive Hop where
  | pattern (source : String)
  | layer (l : Layer)

def Hop.pattern? : Hop → Option String
  | .pattern source => some source
  | .layer _ => none

def Hop.layer? : Hop → Option Layer
  | .pattern _ => none
  | .layer l => some l

/-- An endpoint with the nodes above it, outermost first. -/
structure Leaf where
  way : List Hop
  endpoint : Endpoint

namespace Leaf

def below (hop : Hop) (leaf : Leaf) : Leaf :=
  { leaf with way := hop :: leaf.way }

/-- Induction along the way, from the endpoint outwards. -/
@[elab_as_elim]
theorem induct {P : Leaf → Prop} (endpoint : ∀ e, P ⟨[], e⟩)
    (below : ∀ hop leaf, P leaf → P (leaf.below hop)) (leaf : Leaf) : P leaf := by
  obtain ⟨way, e⟩ := leaf
  induction way with
  | nil => exact endpoint e
  | cons hop way ih => exact below hop ⟨way, e⟩ ih

def patterns (leaf : Leaf) : List String :=
  leaf.way.filterMap Hop.pattern?

def layers (leaf : Leaf) : List Layer :=
  leaf.way.filterMap Hop.layer?

@[simp] theorem layers_below_layer (leaf : Leaf) (l : Layer) :
    (leaf.below (.layer l)).layers = l :: leaf.layers := rfl

def method (leaf : Leaf) : Method :=
  leaf.endpoint.declares.method

/-- The method is the leaf's, and its patterns, each on what the one before left, use up the
path. -/
def Accepts (leaf : Leaf) (method : Method) (path : String) : Prop :=
  method = leaf.method ∧
    leaf.patterns.foldlM (fun path source => Pattern.leftOf source path) path = some ""

instance (leaf : Leaf) (method : Method) (path : String) : Decidable (leaf.Accepts method path) :=
  inferInstanceAs (Decidable (_ ∧ _))

def describe (path : String) (leaf : Leaf) : RouteDescription :=
  ⟨leaf.method, leaf.patterns.foldl (· ++ ·) path, leaf.endpoint.declares.params.names⟩

theorem accepts_below_pattern {leaf : Leaf} {source path : String} {method : Method} :
    (leaf.below (.pattern source)).Accepts method path ↔
      ∃ left, Pattern.leftOf source path = some left ∧ leaf.Accepts method left := by
  have whole : (leaf.below (.pattern source)).patterns = source :: leaf.patterns := rfl
  unfold Accepts
  rw [whole, List.foldlM_cons]
  cases Pattern.leftOf source path with
  | none => simp
  | some left => simp [below, Leaf.method]

theorem accepts_below_layer {leaf : Leaf} {l : Layer} {method : Method} {path : String} :
    (leaf.below (.layer l)).Accepts method path ↔ leaf.Accepts method path := Iff.rfl

end Leaf

namespace RouteTree

mutual

def leaves : RouteTree → List Leaf
  | .endpoint e => [⟨[], e⟩]
  | .bind pattern nested => (leaves nested).map (Leaf.below (.pattern pattern))
  | .group members => leavesIn members
  | .null => []
  | .layer l nested => (leaves nested).map (Leaf.below (.layer l))

def leavesIn : List RouteTree → List Leaf
  | [] => []
  | t :: rest => leaves t ++ leavesIn rest

end

theorem leavesIn_eq_flatMap (members : List RouteTree) :
    leavesIn members = members.flatMap leaves := by
  induction members with
  | nil => rfl
  | cons t rest ih => rw [leavesIn, ih, List.flatMap_cons]

theorem mem_leaves_group {members : List RouteTree} {leaf : Leaf} :
    leaf ∈ (RouteTree.group members).leaves ↔ ∃ t ∈ members, leaf ∈ t.leaves := by
  rw [leaves, leavesIn_eq_flatMap, List.mem_flatMap]

/-- A tree describes its leaves. -/
theorem describe_eq (t : RouteTree) (path : String) :
    t.describe path = t.leaves.map (Leaf.describe path) := by
  induction t using RouteTree.induct generalizing path with
  | endpoint e => rfl
  | bind pattern nested ih =>
    rw [describe, ih, leaves, List.map_map]
    rfl
  | group members ih =>
    rw [describe, describeAll_eq_flatMap, leaves, leavesIn_eq_flatMap, List.map_flatMap]
    exact List.flatMap_congr fun t listed => ih t listed path
  | null => rfl
  | layer l nested ih =>
    rw [describe, ih, leaves, List.map_map]
    rfl

/-- A tree accepts what one of its leaves accepts. -/
theorem accepts_iff {t : RouteTree} {method : Method} {path : String} :
    t.accepts method path.toList = true ↔ ∃ leaf ∈ t.leaves, leaf.Accepts method path := by
  induction t using RouteTree.induct generalizing path with
  | endpoint e => simp [accepts, leaves, Leaf.Accepts, Leaf.patterns, Leaf.method]
  | bind pattern nested ih =>
    simp only [accepts, leaves, List.mem_map, exists_exists_and_eq_and,
      Leaf.accepts_below_pattern, Pattern.leftBy_eq_leftOf]
    cases Pattern.leftOf pattern path with
    | none => simp
    | some left => simpa using ih
  | group members ih =>
    rw [accepts, acceptsAny_eq_any, List.any_eq_true]
    constructor
    · rintro ⟨t, listed, accepted⟩
      obtain ⟨leaf, member, accepts⟩ := (ih t listed).1 accepted
      exact ⟨leaf, mem_leaves_group.2 ⟨t, listed, member⟩, accepts⟩
    · rintro ⟨leaf, member, accepts⟩
      obtain ⟨t, listed, below⟩ := mem_leaves_group.1 member
      exact ⟨t, listed, (ih t listed).2 ⟨leaf, below, accepts⟩⟩
  | null => simp [accepts, leaves]
  | layer l nested ih =>
    simp only [accepts, leaves, List.mem_map, exists_exists_and_eq_and,
      Leaf.accepts_below_layer]
    exact ih

def firstLeaf (t : RouteTree) (method : Method) (path : String) : Option Leaf :=
  t.leaves.find? fun leaf => leaf.Accepts method path

theorem accepts_of_firstLeaf {t : RouteTree} {method : Method} {path : String} {leaf : Leaf}
    (h : t.firstLeaf method path = some leaf) : t.accepts method path.toList = true := by
  refine accepts_iff.2 ⟨leaf, List.mem_of_find?_eq_some h, ?_⟩
  simpa using List.find?_some h

theorem accepts_eq_false_of_firstLeaf {t : RouteTree} {method : Method} {path : String}
    (h : t.firstLeaf method path = none) : t.accepts method path.toList = false := by
  rw [Bool.eq_false_iff]
  intro accepted
  obtain ⟨leaf, listed, accepts⟩ := accepts_iff.1 accepted
  exact absurd accepts (by simpa using List.find?_eq_none.1 h leaf listed)

theorem firstLeaf_bind {pattern : String} {nested : RouteTree} {method : Method} {path : String}
    {leaf : Leaf} (h : (RouteTree.bind pattern nested).firstLeaf method path = some leaf) :
    ∃ left inner, Pattern.leftOf pattern path = some left ∧
      nested.firstLeaf method left = some inner ∧ leaf = inner.below (.pattern pattern) := by
  rw [firstLeaf, leaves, List.find?_map, Option.map_eq_some_iff] at h
  obtain ⟨inner, found, rfl⟩ := h
  have accepted : (inner.below (.pattern pattern)).Accepts method path := by
    simpa using List.find?_some found
  obtain ⟨left, rest, -⟩ := Leaf.accepts_below_pattern.1 accepted
  refine ⟨left, inner, rest, ?_, rfl⟩
  rw [← found, firstLeaf]
  congr 1
  funext leaf
  simp [Leaf.accepts_below_pattern, rest]

theorem firstLeaf_layer {l : Layer} {nested : RouteTree} {method : Method} {path : String}
    {leaf : Leaf} (h : (RouteTree.layer l nested).firstLeaf method path = some leaf) :
    ∃ inner, nested.firstLeaf method path = some inner ∧ leaf = inner.below (.layer l) := by
  rw [firstLeaf, leaves, List.find?_map, Option.map_eq_some_iff] at h
  obtain ⟨inner, found, rfl⟩ := h
  exact ⟨inner, found, rfl⟩

/-- The first leaf of a group is that of the first member that accepts the request. -/
theorem firstLeaf_group {members : List RouteTree} {method : Method} {path : String} {leaf : Leaf}
    (h : (RouteTree.group members).firstLeaf method path = some leaf) :
    ∃ t ∈ members, members.find? (fun t => accepts t method path.toList) = some t ∧
      t.firstLeaf method path = some leaf := by
  induction members with
  | nil => simp [firstLeaf, leaves, leavesIn] at h
  | cons t rest ih =>
    rw [firstLeaf, leaves, leavesIn, List.find?_append] at h
    cases first : t.firstLeaf method path with
    | some own =>
      rw [← firstLeaf, first, Option.some_or] at h
      refine ⟨t, List.mem_cons_self, ?_, first.trans h⟩
      rw [List.find?_cons, accepts_of_firstLeaf first]
    | none =>
      rw [← firstLeaf, first, Option.none_or] at h
      obtain ⟨t', listed, found, below⟩ := ih h
      refine ⟨t', List.mem_cons_of_mem _ listed, ?_, below⟩
      rw [List.find?_cons, accepts_eq_false_of_firstLeaf first]
      exact found

end RouteTree

end RequestRouter
