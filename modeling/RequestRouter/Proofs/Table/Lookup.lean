import Mathlib.Data.List.Sort
import RequestRouter.Table.Basic

/-!
# Look-ups

A table as a finite map: a name stands in at most one entry, the halving search finds exactly the
entries, and the joint walk of two tables is their full outer join. The look-up in every
combination of two tables follows.
-/

namespace RequestRouter

universe u v w

variable {α : Type u} {β : Type v} {γ : Type w}

namespace Entry

theorem mem_names {name : String} {entries : List (Entry α)} :
    name ∈ names entries ↔ ∃ value, (name, value) ∈ entries := by
  simp [names]

theorem mem_names_of_mem {e : Entry α} {entries : List (Entry α)} (h : e ∈ entries) :
    e.1 ∈ names entries :=
  mem_names.2 ⟨e.2, h⟩

end Entry

/-- Names that stand to the right of a greater name do not occur. -/
theorem Increasing.ne_of_mem {a : Entry α} {rest : List (Entry α)} (h : Increasing (a :: rest))
    {x : Entry α} (hx : x ∈ rest) : x.1 ≠ a.1 := by
  intro same
  have less := (List.pairwise_cons.1 h).1 x hx
  exact String.lt_irrefl _ (same ▸ less)

theorem Increasing.tail {a : Entry α} {rest : List (Entry α)} (h : Increasing (a :: rest)) :
    Increasing rest :=
  (List.pairwise_cons.1 h).2

/-- What the step of a joint walk says about the two lists. -/
def Joined.Of (as : List (Entry α)) (bs : List (Entry β)) : Joined α β → Prop
  | .left name a => (name, a) ∈ as ∧ name ∉ Entry.names bs
  | .right name b => name ∉ Entry.names as ∧ (name, b) ∈ bs
  | .both name a b => (name, a) ∈ as ∧ (name, b) ∈ bs

theorem Joined.of_nil_left {bs : List (Entry β)} {j : Joined α β} :
    Joined.Of [] bs j ↔ ∃ b ∈ bs, .right b.1 b.2 = j := by
  cases j <;> simp [Joined.Of, Entry.names]

theorem Joined.of_cons_nil {a : Entry α} {as : List (Entry α)} {j : Joined α β} :
    Joined.Of (a :: as) [] j ↔ j = .left a.1 a.2 ∨ Joined.Of as [] j := by
  cases j <;> simp [Joined.Of, Entry.names, Prod.ext_iff]

/-- A left front that is less than all of the right side has no partner. -/
theorem Joined.of_cons_left {a : Entry α} {as : List (Entry α)} {bs : List (Entry β)}
    (alone : a.1 ∉ Entry.names bs) {j : Joined α β} :
    Joined.Of (a :: as) bs j ↔ j = .left a.1 a.2 ∨ Joined.Of as bs j := by
  cases j with
  | left name x => grind [Joined.Of]
  | right name y => grind [Joined.Of, Entry.names, Entry.mem_names]
  | both name x y => grind [Joined.Of, Entry.mem_names]

theorem Joined.of_cons_right {b : Entry β} {as : List (Entry α)} {bs : List (Entry β)}
    (alone : b.1 ∉ Entry.names as) {j : Joined α β} :
    Joined.Of as (b :: bs) j ↔ j = .right b.1 b.2 ∨ Joined.Of as bs j := by
  cases j with
  | left name x => grind [Joined.Of, Entry.names, Entry.mem_names]
  | right name y => grind [Joined.Of]
  | both name x y => grind [Joined.Of, Entry.mem_names]

theorem Joined.of_cons_both {a : Entry α} {b : Entry β} {as : List (Entry α)}
    {bs : List (Entry β)} (same : a.1 = b.1) (ha : a.1 ∉ Entry.names as)
    (hb : b.1 ∉ Entry.names bs) {j : Joined α β} :
    Joined.Of (a :: as) (b :: bs) j ↔ j = .both a.1 a.2 b.2 ∨ Joined.Of as bs j := by
  cases j with
  | left name x => grind [Joined.Of, Entry.names, Entry.mem_names]
  | right name y => grind [Joined.Of, Entry.names, Entry.mem_names]
  | both name x y => grind [Joined.Of, Entry.mem_names]

theorem Increasing.not_mem_names {a : Entry α} {rest : List (Entry α)}
    (h : Increasing (a :: rest)) : a.1 ∉ Entry.names rest := by
  intro listed
  obtain ⟨value, mem⟩ := Entry.mem_names.1 listed
  exact h.ne_of_mem mem rfl

/-- A name less than the front of an increasing list does not occur in it. -/
theorem Increasing.not_mem_names_of_lt {b : Entry β} {bs : List (Entry β)}
    (h : Increasing (b :: bs)) {name : String} (less : name < b.1) :
    name ∉ Entry.names (b :: bs) := by
  intro listed
  obtain ⟨value, mem⟩ := Entry.mem_names.1 listed
  rcases List.mem_cons.1 mem with rfl | mem
  · exact String.lt_irrefl _ less
  · exact String.lt_asymm less ((List.pairwise_cons.1 h).1 _ mem)

/-- The joint walk of increasing lists is their full outer join. -/
theorem mem_join_iff {as : List (Entry α)} {bs : List (Entry β)} (ha : Increasing as)
    (hb : Increasing bs) {j : Joined α β} : j ∈ join as bs ↔ Joined.Of as bs j := by
  induction as generalizing bs with
  | nil => rw [Joined.of_nil_left, join, List.mem_map]
  | cons a as ihl =>
    induction bs with
    | nil => rw [join_cons_nil, List.mem_cons, ihl ha.tail hb, Joined.of_cons_nil]
    | cons b bs ihr =>
      rw [join_cons_cons]
      split
      · rename_i less
        rw [List.mem_cons, ihl ha.tail hb, Joined.of_cons_left (hb.not_mem_names_of_lt less)]
      · rename_i notLess
        split
        · rename_i same
          rw [List.mem_cons, ihl ha.tail hb.tail,
            Joined.of_cons_both same ha.not_mem_names hb.not_mem_names]
        · rename_i different
          have greater : b.1 < a.1 :=
            Std.lt_of_le_of_ne (String.not_lt.1 notLess) (Ne.symm different)
          rw [List.mem_cons, ihr hb.tail, Joined.of_cons_right (ha.not_mem_names_of_lt greater)]

namespace Table

/-- The halving search finds exactly the entries. -/
theorem search_eq_some_iff {name : String} {value : α} {bound : Nat} {entries : List (Entry α)}
    (h : Increasing entries) (enough : entries.length ≤ bound) :
    search name bound entries = some value ↔ (name, value) ∈ entries := by
  induction bound generalizing entries with
  | zero =>
    have empty : entries = [] := List.eq_nil_of_length_eq_zero (by omega)
    simp [search, empty]
  | succ bound ih =>
    have halves := List.take_append_drop (entries.length / 2) entries
    cases upper : entries.drop (entries.length / 2) with
    | nil =>
      have short := congrArg List.length upper
      rw [List.length_drop, List.length_nil] at short
      have empty : entries = [] := List.eq_nil_of_length_eq_zero (by omega)
      simp [search, empty]
    | cons middle upper' =>
      rw [upper] at halves
      have sizes := congrArg List.length upper
      rw [List.length_drop, List.length_cons] at sizes
      have sorted : Increasing (entries.take (entries.length / 2) ++ middle :: upper') :=
        halves.symm ▸ h
      obtain ⟨lowerSorted, upperSorted, across⟩ := List.pairwise_append.1 sorted
      have below : ∀ x ∈ entries.take (entries.length / 2), x.1 < middle.1 :=
        fun x hx => across x hx middle List.mem_cons_self
      have above := (List.pairwise_cons.1 upperSorted).1
      have split : (name, value) ∈ entries ↔
          (name, value) ∈ entries.take (entries.length / 2) ∨ (name, value) = middle ∨
            (name, value) ∈ upper' := by
        rw [← List.mem_cons, ← List.mem_append, halves]
      obtain ⟨n, v⟩ := middle
      rw [split]
      simp only [search, upper]
      by_cases found : n = name
      · subst found
        have notBelow : (n, value) ∉ entries.take (entries.length / 2) :=
          fun mem => String.lt_irrefl n (below _ mem)
        have notAbove : (n, value) ∉ upper' :=
          fun mem => String.lt_irrefl n (above _ mem)
        simp [notBelow, notAbove, eq_comm]
      · have notMiddle : (name, value) ≠ (n, v) := fun same => found (congrArg Prod.fst same).symm
        rw [if_neg found]
        by_cases left : name < n
        · have notAbove : (name, value) ∉ upper' :=
            fun mem => String.lt_asymm left (above _ mem)
          rw [if_pos left, ih lowerSorted (by rw [List.length_take]; omega)]
          simp [notMiddle, notAbove]
        · have notBelow : (name, value) ∉ entries.take (entries.length / 2) :=
            fun mem => left (below _ mem)
          rw [if_neg left, ih (List.pairwise_cons.1 upperSorted).2 (by omega)]
          simp [notMiddle, notBelow]

variable {name : String} {value : α}

theorem get?_eq_some_iff {t : Table α} : t.get? name = some value ↔ (name, value) ∈ t.entries :=
  search_eq_some_iff t.increasing (Nat.le_refl _)

theorem get?_eq_none_iff {t : Table α} : t.get? name = none ↔ name ∉ t.names := by
  rw [names, Entry.mem_names, Option.eq_none_iff_forall_ne_some]
  simp [get?_eq_some_iff]

theorem mem_names_iff {t : Table α} : name ∈ t.names ↔ ∃ value, t.get? name = some value := by
  simp [names, Entry.mem_names, get?_eq_some_iff]

theorem names_pairwise (t : Table α) : t.names.Pairwise (· < ·) :=
  List.pairwise_map.2 t.increasing

/-- Tables with the same set of names list the names alike. -/
theorem names_eq_of_mem_iff {a : Table α} {b : Table β}
    (same : ∀ name, name ∈ a.names ↔ name ∈ b.names) : a.names = b.names :=
  List.Pairwise.eq_of_mem_iff a.names_pairwise b.names_pairwise same

/-- A table is known by its look-ups. -/
theorem ext_get? {a b : Table α} (same : ∀ name, a.get? name = b.get? name) : a = b := by
  apply ext
  refine List.Pairwise.eq_of_mem_iff a.increasing b.increasing fun e => ?_
  obtain ⟨name, value⟩ := e
  rw [← get?_eq_some_iff, ← get?_eq_some_iff, same]

/-- The values that two tables have under one name, as a step of their joint walk. -/
def joinedAt (a : Table α) (b : Table β) (name : String) : Option (Joined α β) :=
  match a.get? name, b.get? name with
  | some x, some y => some (.both name x y)
  | some x, none => some (.left name x)
  | none, some y => some (.right name y)
  | none, none => none

theorem joinedAt_eq_some_iff {a : Table α} {b : Table β} {j : Joined α β} :
    joinedAt a b name = some j ↔ Joined.Of a.entries b.entries j ∧ j.name = name := by
  have left {n : String} {x : α} : (n, x) ∈ a.entries ↔ a.get? n = some x := get?_eq_some_iff.symm
  have right {n : String} {y : β} : (n, y) ∈ b.entries ↔ b.get? n = some y := get?_eq_some_iff.symm
  have noLeft {n : String} : n ∉ Entry.names a.entries ↔ a.get? n = none := get?_eq_none_iff.symm
  have noRight {n : String} : n ∉ Entry.names b.entries ↔ b.get? n = none := get?_eq_none_iff.symm
  cases j with
  | left n x =>
    simp only [Joined.Of, Joined.name, left, noRight, joinedAt]
    cases ha : a.get? name <;> cases hb : b.get? name <;> grind
  | right n y =>
    simp only [Joined.Of, Joined.name, right, noLeft, joinedAt]
    cases ha : a.get? name <;> cases hb : b.get? name <;> grind
  | both n x y =>
    simp only [Joined.Of, Joined.name, left, right, joinedAt]
    cases ha : a.get? name <;> cases hb : b.get? name <;> grind

/-- The look-up in a combination, from the look-ups in its two tables. -/
theorem get?_combine {f : Joined α β → Option γ} {a : Table α} {b : Table β} :
    (combine f a b).get? name = (joinedAt a b name).bind f := by
  apply Option.ext
  intro result
  rw [get?_eq_some_iff, Option.bind_eq_some_iff]
  simp only [combine, List.mem_filterMap, mem_join_iff a.increasing b.increasing,
    Option.map_eq_some_iff, Prod.mk.injEq, joinedAt_eq_some_iff]
  constructor
  · rintro ⟨j, of, x, made, named, rfl⟩
    exact ⟨j, ⟨of, named⟩, made⟩
  · rintro ⟨j, ⟨of, named⟩, made⟩
    exact ⟨j, of, result, made, named, rfl⟩

@[simp] theorem get?_empty : (empty : Table α).get? name = none := rfl

@[simp] theorem get?_single {n : String} :
    (single n value).get? name = if n = name then some value else none := by
  apply Option.ext
  intro x
  rw [get?_eq_some_iff]
  simp only [single, List.mem_singleton, Prod.mk.injEq]
  split <;> grind

/-- On a shared name the newer value wins. -/
@[simp] theorem get?_union {older newer : Table α} :
    (older.union newer).get? name = (newer.get? name).or (older.get? name) := by
  rw [union, get?_combine, joinedAt]
  cases older.get? name <;> cases newer.get? name <;> rfl

theorem union_assoc (a b c : Table α) : (a.union b).union c = a.union (b.union c) := by
  apply ext_get?
  intro name
  rw [get?_union, get?_union, get?_union, get?_union, Option.or_assoc]

@[simp] theorem get?_insert {t : Table α} {n : String} :
    (t.insert n value).get? name = if n = name then some value else t.get? name := by
  rw [insert, get?_union, get?_single]
  split <;> rfl

@[simp] theorem get?_subtract {a : Table α} {b : Table β} :
    (a.subtract b).get? name = if (b.get? name).isSome then none else a.get? name := by
  rw [subtract, get?_combine, joinedAt]
  cases a.get? name <;> cases b.get? name <;> rfl

theorem mem_names_union {older newer : Table α} :
    name ∈ (older.union newer).names ↔ name ∈ older.names ∨ name ∈ newer.names := by
  simp only [mem_names_iff, get?_union]
  cases older.get? name <;> cases newer.get? name <;> simp

theorem mem_names_subtract {a : Table α} {b : Table β} :
    name ∈ (a.subtract b).names ↔ name ∈ a.names ∧ name ∉ b.names := by
  simp only [mem_names_iff, get?_subtract]
  cases a.get? name <;> cases b.get? name <;> simp

/-- The names that are left keep their order. -/
theorem names_subtract (a : Table α) (b : Table β) :
    (a.subtract b).names = a.names.filter (· ∉ b.names) := by
  refine List.Pairwise.eq_of_mem_iff (names_pairwise _) (a.names_pairwise.filter _) fun name => ?_
  simp [mem_names_subtract]

theorem isEmpty_iff {t : Table α} : t.isEmpty = true ↔ t.names = [] := by
  rw [isEmpty, List.isEmpty_iff, names, Entry.names, List.map_eq_nil_iff]

/-- Nothing is left after the subtraction of a table with all the names. -/
theorem isEmpty_subtract_iff {a : Table α} {b : Table β} :
    (a.subtract b).isEmpty = true ↔ ∀ name ∈ a.names, name ∈ b.names := by
  rw [isEmpty_iff, List.eq_nil_iff_forall_not_mem]
  constructor
  · intro none name listed
    exact Decidable.byContradiction fun lacks => none name (mem_names_subtract.2 ⟨listed, lacks⟩)
  · intro covered name listed
    obtain ⟨mem, lacks⟩ := mem_names_subtract.1 listed
    exact lacks (covered name mem)

end Table

end RequestRouter
