import RequestRouter.Proofs.Table.Lookup

/-!
# The algebra of tables

The walk over two lists, taken step by step to its end, is their full outer join: over increasing
lists every name of either list comes up once, in order, with the values of the sides that have it.
The look-ups in the four combinations of two tables follow, and from these the laws that
combinations obey, since a table is known by its look-ups.
-/

namespace RequestRouter

universe u v w

variable {α : Type u} {β : Type v} {γ : Type w}

namespace MergeWalk

/-- What a walk yields, one step after the other, until it ends. -/
inductive Yields : MergeWalk α β → List (Joined α β) → Prop where
  | done {w : MergeWalk α β} (ended : w.next? = none) : Yields w []
  | step {w rest : MergeWalk α β} {j : Joined α β} {js : List (Joined α β)}
      (first : w.next? = some (j, rest)) (others : Yields rest js) : Yields w (j :: js)

/-- Every walk ends. -/
theorem yields_steps (w : MergeWalk α β) : w.Yields w.steps := by
  generalize taken : w.steps = js
  induction js generalizing w with
  | nil =>
    rw [steps_eq] at taken
    cases next : w.next? with
    | none => exact .done next
    | some step =>
      rw [next] at taken
      cases taken
  | cons j js ih =>
    rw [steps_eq] at taken
    cases next : w.next? with
    | none =>
      rw [next] at taken
      cases taken
    | some step =>
      rw [next] at taken
      obtain ⟨rfl, others⟩ := List.cons.inj taken
      exact .step next (ih step.2 others)

theorem yields_iff {w : MergeWalk α β} {js : List (Joined α β)} : w.Yields js ↔ js = w.steps := by
  constructor
  · intro yields
    induction yields with
    | done ended => rw [steps_eq, ended]
    | step first others ih => rw [steps_eq, first, ih]
  · rintro rfl
    exact yields_steps w

end MergeWalk

/-- A full outer join of two lists of entries: in increasing order, every name of either list once,
with the values of the sides that have it. -/
structure Joined.Full (as : List (Entry α)) (bs : List (Entry β)) (js : List (Joined α β)) :
    Prop where
  increasing : js.Pairwise fun i j => i.name < j.name
  count_eq : ∀ name, (js.map Joined.name).count name =
    if name ∈ Entry.names as ∨ name ∈ Entry.names bs then 1 else 0
  left_iff : ∀ name x, .left name x ∈ js ↔ (name, x) ∈ as ∧ name ∉ Entry.names bs
  right_iff : ∀ name y, .right name y ∈ js ↔ name ∉ Entry.names as ∧ (name, y) ∈ bs
  both_iff : ∀ name x y, .both name x y ∈ js ↔ (name, x) ∈ as ∧ (name, y) ∈ bs

theorem mem_names_join {as : List (Entry α)} {bs : List (Entry β)} (ha : Increasing as)
    (hb : Increasing bs) {name : String} :
    name ∈ (join as bs).map Joined.name ↔ name ∈ Entry.names as ∨ name ∈ Entry.names bs := by
  constructor
  · intro listed
    obtain ⟨j, walked, rfl⟩ := List.mem_map.1 listed
    rcases mem_join walked with ⟨a, member, same⟩ | ⟨b, member, same⟩
    · exact Or.inl (same ▸ Entry.mem_names_of_mem member)
    · exact Or.inr (same ▸ Entry.mem_names_of_mem member)
  · intro listed
    have walked (j : Joined α β) (of : Joined.Of as bs j) : j.name ∈ (join as bs).map Joined.name :=
      List.mem_map_of_mem ((mem_join_iff ha hb).2 of)
    by_cases left : name ∈ Entry.names as
    · obtain ⟨x, memberA⟩ := Entry.mem_names.1 left
      by_cases right : name ∈ Entry.names bs
      · obtain ⟨y, memberB⟩ := Entry.mem_names.1 right
        exact walked (.both name x y) ⟨memberA, memberB⟩
      · exact walked (.left name x) ⟨memberA, right⟩
    · obtain ⟨y, memberB⟩ := Entry.mem_names.1 (listed.resolve_left left)
      exact walked (.right name y) ⟨left, memberB⟩

theorem join_full {as : List (Entry α)} {bs : List (Entry β)} (ha : Increasing as)
    (hb : Increasing bs) : Joined.Full as bs (join as bs) := by
  have increasing := join_increasing ha hb
  have distinct : ((join as bs).map Joined.name).Nodup :=
    List.pairwise_map.2 (increasing.imp String.ne_of_lt)
  refine ⟨increasing, fun name => ?_, fun _ _ => mem_join_iff ha hb, fun _ _ => mem_join_iff ha hb,
    fun _ _ _ => mem_join_iff ha hb⟩
  rw [distinct.count]
  exact if_congr (mem_names_join ha hb) rfl rfl

namespace Table

variable {name : String}

@[simp] theorem get?_intersection {a : Table α} {b : Table β} :
    (a.intersection b).get? name = if (b.get? name).isSome then a.get? name else none := by
  rw [intersection, get?_combine, joinedAt]
  cases a.get? name <;> cases b.get? name <;> rfl

/-- The entry of the only side that has the name. -/
@[simp] theorem get?_difference {a b : Table α} :
    (a.difference b).get? name =
      if (a.get? name).isSome && (b.get? name).isSome then none
      else (a.get? name).or (b.get? name) := by
  rw [difference, get?_combine, joinedAt]
  cases a.get? name <;> cases b.get? name <;> rfl

@[simp] theorem get?_map {t : Table α} {f : α → β} : (t.map f).get? name = (t.get? name).map f := by
  apply Option.ext
  intro image
  rw [get?_eq_some_iff, Option.map_eq_some_iff]
  simp [map, get?_eq_some_iff]

theorem union_self (a : Table α) : a.union a = a := by
  apply ext_get?
  intro name
  rw [get?_union, Option.or_self]

theorem union_empty (a : Table α) : a.union empty = a := by
  apply ext_get?
  intro name
  rw [get?_union, get?_empty, Option.none_or]

theorem empty_union (a : Table α) : empty.union a = a := by
  apply ext_get?
  intro name
  rw [get?_union, get?_empty, Option.or_none]

/-- What the other table lacks and what it shares make up the whole. -/
theorem union_subtract_intersection (a : Table α) (b : Table β) :
    (a.subtract b).union (a.intersection b) = a := by
  apply ext_get?
  intro name
  rw [get?_union, get?_subtract, get?_intersection]
  cases b.get? name <;> simp

theorem difference_eq_union_subtract (a b : Table α) :
    a.difference b = (a.subtract b).union (b.subtract a) := by
  apply ext_get?
  intro name
  rw [get?_union, get?_subtract, get?_subtract, get?_difference]
  cases a.get? name <;> cases b.get? name <;> rfl

/-- At most one side has a name of the difference, so that the sides may change places. -/
theorem difference_comm (a b : Table α) : a.difference b = b.difference a := by
  apply ext_get?
  intro name
  rw [get?_difference, get?_difference]
  cases a.get? name <;> cases b.get? name <;> rfl

/-- Which side is newer decides about values, not about names. -/
theorem names_union_comm (a b : Table α) : (a.union b).names = (b.union a).names := by
  refine names_eq_of_mem_iff fun name => ?_
  rw [mem_names_union, mem_names_union, or_comm]

end Table

def Joined.map {α' : Type u} {β' : Type v} (f : α → α') (g : β → β') : Joined α β → Joined α' β'
  | .left name x => .left name (f x)
  | .right name y => .right name (g y)
  | .both name x y => .both name (f x) (g y)

namespace Table

variable {α' : Type u} {β' : Type v} {γ' : Type w}

theorem joinedAt_map (f : α → α') (g : β → β') (a : Table α) (b : Table β) (name : String) :
    joinedAt (a.map f) (b.map g) name = (joinedAt a b name).map (Joined.map f g) := by
  rw [joinedAt, joinedAt, get?_map, get?_map]
  cases a.get? name <;> cases b.get? name <;> rfl

/-- A combination commutes with images if its choice at each name does. -/
theorem map_combine {f : α → α'} {g : β → β'} {h : γ → γ'} {choose : Joined α β → Option γ}
    {choose' : Joined α' β' → Option γ'}
    (natural : ∀ j, (choose j).map h = choose' (j.map f g)) (a : Table α) (b : Table β) :
    (combine choose a b).map h = combine choose' (a.map f) (b.map g) := by
  apply ext_get?
  intro name
  rw [get?_map, get?_combine, get?_combine, joinedAt_map]
  cases joinedAt a b name with
  | none => rfl
  | some j => exact natural j

theorem map_id (t : Table α) : t.map id = t := by
  apply ext_get?
  intro name
  rw [get?_map, Option.map_id, id]

theorem map_union (f : α → α') (a b : Table α) :
    (a.union b).map f = (a.map f).union (b.map f) :=
  map_combine (fun j => by cases j <;> rfl) a b

theorem map_difference (f : α → α') (a b : Table α) :
    (a.difference b).map f = (a.map f).difference (b.map f) :=
  map_combine (fun j => by cases j <;> rfl) a b

/-- Of the second table only the names count. -/
theorem map_intersection (f : α → α') (g : β → β') (a : Table α) (b : Table β) :
    (a.intersection b).map f = (a.map f).intersection (b.map g) :=
  map_combine (fun j => by cases j <;> rfl) a b

theorem map_subtract (f : α → α') (g : β → β') (a : Table α) (b : Table β) :
    (a.subtract b).map f = (a.map f).subtract (b.map g) :=
  map_combine (fun j => by cases j <;> rfl) a b

theorem map_insert (f : α → α') (t : Table α) (name : String) (value : α) :
    (t.insert name value).map f = (t.map f).union (single name (f value)) :=
  map_union f t (single name value)

end Table

end RequestRouter
