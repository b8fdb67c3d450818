import RequestRouter.Table.Order

/-!
# The joint walk

The full outer join of two lists of entries in one walk from their fronts: at each step the
lesser name, or both entries if the names agree. Main statement: over increasing lists the walk
visits increasing names.
-/

namespace RequestRouter

universe u v

/-- One name of a joint walk, with the values of the sides that have it. -/
inductive Joined (α : Type u) (β : Type v) where
  | left (name : String) (a : α)
  | right (name : String) (b : β)
  | both (name : String) (a : α) (b : β)
deriving Repr, DecidableEq

variable {α : Type u} {β : Type v}

def Joined.name : Joined α β → String
  | .left n _ => n
  | .right n _ => n
  | .both n _ _ => n

/-- What is left of the two lists during a walk. -/
structure MergeWalk (α : Type u) (β : Type v) where
  left : List (Entry α)
  right : List (Entry β)
deriving Repr, DecidableEq

namespace MergeWalk

def next? (w : MergeWalk α β) : Option (Joined α β × MergeWalk α β) :=
  match w.left, w.right with
  | [], [] => none
  | a :: as, [] => some (.left a.1 a.2, ⟨as, []⟩)
  | [], b :: bs => some (.right b.1 b.2, ⟨[], bs⟩)
  | a :: as, b :: bs =>
    if a.1 < b.1 then some (.left a.1 a.2, ⟨as, b :: bs⟩)
    else if a.1 = b.1 then some (.both a.1 a.2 b.2, ⟨as, bs⟩)
    else some (.right b.1 b.2, ⟨a :: as, bs⟩)

/-- A lower and an upper bound on the number of steps to come. -/
def sizeHint (w : MergeWalk α β) : Nat × Nat :=
  (max w.left.length w.right.length, w.left.length + w.right.length)

end MergeWalk

/-- The walk up to and past the left entry `a`, and `rest` after it. -/
def joinPast (a : Entry α) (rest : List (Entry β) → List (Joined α β)) :
    List (Entry β) → List (Joined α β)
  | [] => .left a.1 a.2 :: rest []
  | b :: bs =>
    if a.1 < b.1 then .left a.1 a.2 :: rest (b :: bs)
    else if a.1 = b.1 then .both a.1 a.2 b.2 :: rest bs
    else .right b.1 b.2 :: joinPast a rest bs

def join : List (Entry α) → List (Entry β) → List (Joined α β)
  | [], bs => bs.map fun b => .right b.1 b.2
  | a :: as, bs => joinPast a (join as) bs

def MergeWalk.steps (w : MergeWalk α β) : List (Joined α β) :=
  join w.left w.right

theorem join_cons_nil (a : Entry α) (as : List (Entry α)) :
    join (a :: as) ([] : List (Entry β)) = .left a.1 a.2 :: join as [] := rfl

theorem join_cons_cons (a : Entry α) (as : List (Entry α)) (b : Entry β) (bs : List (Entry β)) :
    join (a :: as) (b :: bs) =
      if a.1 < b.1 then .left a.1 a.2 :: join as (b :: bs)
      else if a.1 = b.1 then .both a.1 a.2 b.2 :: join as bs
      else .right b.1 b.2 :: join (a :: as) bs := rfl

/-- The walk is its first step and the steps after it. -/
theorem MergeWalk.steps_eq (w : MergeWalk α β) :
    w.steps = match w.next? with
      | none => []
      | some (j, w') => j :: w'.steps := by
  obtain ⟨l, r⟩ := w
  cases l with
  | nil => cases r <;> rfl
  | cons a as =>
    cases r with
    | nil => rfl
    | cons b bs =>
      simp only [steps, next?, join_cons_cons]
      split
      · rfl
      · split <;> rfl

/-- A name of the walk is a name of one of the lists. -/
theorem mem_join {j : Joined α β} {as : List (Entry α)} {bs : List (Entry β)}
    (h : j ∈ join as bs) : (∃ a ∈ as, a.1 = j.name) ∨ ∃ b ∈ bs, b.1 = j.name := by
  induction as generalizing bs with
  | nil =>
    obtain ⟨b, hb, rfl⟩ := List.mem_map.1 h
    exact Or.inr ⟨b, hb, rfl⟩
  | cons a as ihl =>
    have lift {bs' : List (Entry β)} (sub : ∀ b ∈ bs', b ∈ bs) (g : j ∈ join as bs') :
        (∃ x ∈ a :: as, x.1 = j.name) ∨ ∃ b ∈ bs, b.1 = j.name := by
      rcases ihl g with ⟨x, hx, e⟩ | ⟨b, hb, e⟩
      · exact Or.inl ⟨x, List.mem_cons_of_mem a hx, e⟩
      · exact Or.inr ⟨b, sub b hb, e⟩
    induction bs with
    | nil =>
      rcases List.mem_cons.1 h with rfl | h
      · exact Or.inl ⟨a, List.mem_cons_self, rfl⟩
      · exact lift (fun _ => id) h
    | cons b bs ihr =>
      rw [join_cons_cons] at h
      split at h
      · rcases List.mem_cons.1 h with rfl | h
        · exact Or.inl ⟨a, List.mem_cons_self, rfl⟩
        · exact lift (fun _ => id) h
      · split at h
        · rcases List.mem_cons.1 h with rfl | h
          · exact Or.inl ⟨a, List.mem_cons_self, rfl⟩
          · exact lift (fun _ => List.mem_cons_of_mem b) h
        · rcases List.mem_cons.1 h with rfl | h
          · exact Or.inr ⟨b, List.mem_cons_self, rfl⟩
          · have tail := ihr h fun {bs'} sub g => by
              rcases ihl g with ⟨x, hx, e⟩ | ⟨b', hb, e⟩
              · exact Or.inl ⟨x, List.mem_cons_of_mem a hx, e⟩
              · exact Or.inr ⟨b', sub b' hb, e⟩
            rcases tail with left | ⟨b', hb, e⟩
            · exact Or.inl left
            · exact Or.inr ⟨b', List.mem_cons_of_mem b hb, e⟩

/-- Every name of the walk is greater than `n` if all names of both lists are. -/
theorem lt_of_mem_join {n : String} {j : Joined α β} {as : List (Entry α)} {bs : List (Entry β)}
    (ha : ∀ a ∈ as, n < a.1) (hb : ∀ b ∈ bs, n < b.1) (h : j ∈ join as bs) : n < j.name := by
  rcases mem_join h with ⟨a, mem, e⟩ | ⟨b, mem, e⟩
  · exact e ▸ ha a mem
  · exact e ▸ hb b mem

/-- Over increasing lists the walk visits increasing names. -/
theorem join_increasing {as : List (Entry α)} {bs : List (Entry β)} (ha : Increasing as)
    (hb : Increasing bs) : (join as bs).Pairwise fun i j => i.name < j.name := by
  induction as generalizing bs with
  | nil => exact List.pairwise_map.2 hb
  | cons a as ihl =>
    obtain ⟨afterA, ha'⟩ := List.pairwise_cons.1 ha
    induction bs with
    | nil =>
      exact List.pairwise_cons.2 ⟨fun j hj => lt_of_mem_join afterA (by simp) hj, ihl ha' hb⟩
    | cons b bs ihr =>
      obtain ⟨afterB, hb'⟩ := List.pairwise_cons.1 hb
      rw [join_cons_cons]
      split
      · rename_i hlt
        refine List.pairwise_cons.2 ⟨fun j hj => lt_of_mem_join afterA ?_ hj, ihl ha' hb⟩
        intro x hx
        rcases List.mem_cons.1 hx with rfl | hx
        · exact hlt
        · exact String.lt_trans hlt (afterB x hx)
      · rename_i hnlt
        split
        · rename_i heq
          refine List.pairwise_cons.2 ⟨fun j hj => lt_of_mem_join afterA ?_ hj, ihl ha' hb'⟩
          intro x hx
          exact heq ▸ afterB x hx
        · rename_i hne
          have hgt : b.1 < a.1 := by
            refine Decidable.byContradiction fun h => hne ?_
            exact String.le_antisymm (String.not_lt.1 h) (String.not_lt.1 hnlt)
          refine List.pairwise_cons.2 ⟨fun j hj => lt_of_mem_join ?_ afterB hj, ihr hb'⟩
          intro x hx
          rcases List.mem_cons.1 hx with rfl | hx
          · exact hgt
          · exact String.lt_trans hgt (afterA x hx)

end RequestRouter
