/-!
# Splitting at a separator
-/

namespace RequestRouter

variable {α : Type} [DecidableEq α]

/-- The parts between the separators, empty ones included; there is always at least one. -/
def splitParts (sep : α) : List α → List (List α)
  | [] => [[]]
  | c :: cs =>
    if c = sep then [] :: splitParts sep cs
    else match splitParts sep cs with
      | part :: parts => (c :: part) :: parts
      | [] => [[c]]

/-- What stands before the first separator and, if there is one, what stands after it. -/
def cutFirst (sep : α) : List α → List α × Option (List α)
  | [] => ([], none)
  | c :: cs =>
    if c = sep then ([], some cs)
    else
      let (before, after) := cutFirst sep cs
      (c :: before, after)

theorem cutFirst_fst (sep : α) (cs : List α) :
    (cutFirst sep cs).1 = cs.takeWhile fun c => decide (c ≠ sep) := by
  induction cs with
  | nil => rfl
  | cons c cs ih =>
    by_cases separates : c = sep
    · simp [cutFirst, separates]
    · simp [cutFirst, separates, ih]

end RequestRouter
