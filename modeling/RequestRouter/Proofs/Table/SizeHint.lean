import Mathlib.Logic.Function.Iterate
import RequestRouter.Proofs.Table.Algebra

/-!
# How many steps are to come

The size hint of a walk is taken from the lengths of what is left of the two lists. A step takes the
front of one list or the fronts of both, and nothing else. So the steps to come hold the rest of
either list, entry by entry and in order: there are at least as many as the longer list has entries,
and at most as many as both have together.

Main statement: this is so after any number of calls, those at the end of the walk included. It does
not depend on the order of the lists, nor on whether their names are distinct.
-/

namespace RequestRouter

universe u v

variable {α : Type u} {β : Type v}

namespace Joined

def left? : Joined α β → Option (Entry α)
  | .left name a => some (name, a)
  | .right _ _ => none
  | .both name a _ => some (name, a)

def right? : Joined α β → Option (Entry β)
  | .left _ _ => none
  | .right name b => some (name, b)
  | .both name _ b => some (name, b)

/-- Every step takes something. -/
theorem length_le (js : List (Joined α β)) :
    js.length ≤ (js.filterMap left?).length + (js.filterMap right?).length := by
  induction js with
  | nil => exact Nat.le_refl 0
  | cons j js ih =>
    cases j <;> simp only [List.filterMap_cons, left?, right?, List.length_cons] <;> omega

end Joined

namespace MergeWalk

variable {w rest : MergeWalk α β} {j : Joined α β} {js : List (Joined α β)}

theorem next?_eq_none_iff : w.next? = none ↔ w.left = [] ∧ w.right = [] := by
  obtain ⟨as, bs⟩ := w
  cases as with
  | nil => cases bs <;> simp [next?]
  | cons a as =>
    cases bs with
    | nil => simp [next?]
    | cons b bs =>
      simp only [next?]
      split_ifs <;> simp

/-- A step takes its entries off the fronts of the lists. -/
theorem sides_of_next? (h : w.next? = some (j, rest)) :
    w.left = j.left?.toList ++ rest.left ∧ w.right = j.right?.toList ++ rest.right := by
  obtain ⟨as, bs⟩ := w
  cases as with
  | nil =>
    cases bs with
    | nil => cases h
    | cons b bs =>
      cases h
      exact ⟨rfl, rfl⟩
  | cons a as =>
    cases bs with
    | nil =>
      cases h
      exact ⟨rfl, rfl⟩
    | cons b bs =>
      simp only [next?] at h
      split_ifs at h with less same
      · cases h
        exact ⟨rfl, rfl⟩
      · cases h
        exact ⟨rfl, by simp [Joined.right?, same]⟩
      · cases h
        exact ⟨rfl, rfl⟩

/-- The steps to come hold the rest of either list. -/
theorem Yields.sides (h : w.Yields js) :
    js.filterMap Joined.left? = w.left ∧ js.filterMap Joined.right? = w.right := by
  induction h with
  | done ended =>
    obtain ⟨left, right⟩ := next?_eq_none_iff.1 ended
    exact ⟨left.symm, right.symm⟩
  | @step w rest j js first others ih =>
    obtain ⟨left, right⟩ := sides_of_next? first
    rw [left, right, ← ih.1, ← ih.2]
    cases j <;> exact ⟨rfl, rfl⟩

/-- The walk after a call: past the step that the call yields, or unchanged if it yields none. -/
def advance (w : MergeWalk α β) : MergeWalk α β :=
  match w.next? with
  | none => w
  | some (_, rest) => rest

theorem steps_advance (w : MergeWalk α β) : w.advance.steps = w.steps.tail := by
  rw [steps_eq w, advance]
  cases next : w.next? with
  | none =>
    rw [steps_eq, next]
    rfl
  | some step => rfl

theorem steps_iterate_advance (n : Nat) (w : MergeWalk α β) :
    (advance^[n] w).steps = w.steps.drop n := by
  induction n generalizing w with
  | zero => rfl
  | succ n ih => rw [Function.iterate_succ_apply, ih, steps_advance, List.drop_tail]

/-- The size hint of the walk bounds the number of steps to come, and either bound is zero exactly
at the end of the walk. -/
structure Honest (w : MergeWalk α β) (toCome : Nat) : Prop where
  lower : w.sizeHint.1 ≤ toCome
  upper : toCome ≤ w.sizeHint.2
  lower_eq_zero_iff : w.sizeHint.1 = 0 ↔ w.next? = none
  upper_eq_zero_iff : w.sizeHint.2 = 0 ↔ w.next? = none

theorem Yields.honest (h : w.Yields js) : w.Honest js.length := by
  obtain ⟨left, right⟩ := h.sides
  have longer := List.length_filterMap_le Joined.left? js
  have longer' := List.length_filterMap_le Joined.right? js
  have shorter := Joined.length_le js
  rw [left] at longer shorter
  rw [right] at longer' shorter
  refine ⟨Nat.max_le.2 ⟨longer, longer'⟩, shorter, ?_, ?_⟩
  · simp [sizeHint, next?_eq_none_iff]
  · simp [sizeHint, next?_eq_none_iff]

/-- The walk over two lists ends after no more steps than both lists have entries. After any number
of calls those of its steps are to come that the calls have not yielded; the size hint bounds their
number from below and from above, and either bound is zero exactly if no step is to come. -/
theorem sizeHint_honest (as : List (Entry α)) (bs : List (Entry β)) :
    ∃ js, (∀ ks, (MergeWalk.mk as bs).Yields ks ↔ ks = js) ∧
      js.length ≤ as.length + bs.length ∧
      ∀ n, (∀ ks, (advance^[n] ⟨as, bs⟩).Yields ks ↔ ks = js.drop n) ∧
        (advance^[n] ⟨as, bs⟩).Honest (js.drop n).length := by
  refine ⟨join as bs, fun ks => yields_iff, ?_, fun n => ?_⟩
  · exact (yields_steps ⟨as, bs⟩).honest.upper
  · have toCome : (advance^[n] ⟨as, bs⟩).Yields ((join as bs).drop n) :=
      yields_iff.2 (steps_iterate_advance n ⟨as, bs⟩).symm
    refine ⟨fun ks => ?_, toCome.honest⟩
    rw [yields_iff, steps_iterate_advance]
    rfl

/-- The bounds are apart where the lists share some names and not others. -/
example : let w : MergeWalk Nat Nat := ⟨[("a", 1), ("c", 2)], [("b", 3), ("c", 4)]⟩
    w.sizeHint = (2, 4) ∧ w.steps.length = 3 := by decide

end MergeWalk

end RequestRouter
