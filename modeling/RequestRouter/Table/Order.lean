/-!
# Named entries in order

Lists of named entries, their order by name (by code point, which is the order of the UTF-8
bytes), and the stable sort that rejects a repeated name.
-/

namespace RequestRouter

universe u

abbrev Entry (α : Type u) := String × α

/-- Names strictly increase, so none occurs twice. -/
def Increasing {α : Type u} (entries : List (Entry α)) : Prop :=
  entries.Pairwise fun a b => a.1 < b.1

namespace Entry

variable {α : Type u}

def names (entries : List (Entry α)) : List String :=
  entries.map Prod.fst

/-- Whether each name is less than the next one. -/
def adjacentIncreasing : List (Entry α) → Bool
  | [] => true
  | [_] => true
  | a :: b :: rest => decide (a.1 < b.1) && adjacentIncreasing (b :: rest)

/-- Puts `e` before the first entry whose name is not less. -/
def insertSorted (e : Entry α) : List (Entry α) → List (Entry α)
  | [] => [e]
  | x :: rest => if x.1 < e.1 then x :: insertSorted e rest else e :: x :: rest

/-- The entries by increasing name; entries of one name keep their order. -/
def sorted (entries : List (Entry α)) : List (Entry α) :=
  entries.foldr insertSorted []

/-- The first name that two neighbours share. -/
def firstRepeat : List (Entry α) → Option String
  | [] => none
  | [_] => none
  | a :: b :: rest => if a.1 = b.1 then some a.1 else firstRepeat (b :: rest)

theorem mem_insertSorted {e x : Entry α} {entries : List (Entry α)} :
    x ∈ insertSorted e entries ↔ x = e ∨ x ∈ entries := by
  induction entries with
  | nil => simp [insertSorted]
  | cons y rest ih =>
    simp only [insertSorted]
    split
    · simp [ih, or_left_comm]
    · simp

theorem pairwise_insertSorted {e : Entry α} {entries : List (Entry α)}
    (h : entries.Pairwise fun a b => a.1 ≤ b.1) :
    (insertSorted e entries).Pairwise fun a b => a.1 ≤ b.1 := by
  induction entries with
  | nil => simp [insertSorted]
  | cons y rest ih =>
    obtain ⟨first, others⟩ := List.pairwise_cons.1 h
    simp only [insertSorted]
    split
    · rename_i hlt
      refine List.pairwise_cons.2 ⟨fun x hx => ?_, ih others⟩
      rcases mem_insertSorted.1 hx with rfl | hx
      · exact String.not_lt.1 fun g => String.lt_asymm hlt g
      · exact first x hx
    · rename_i hnot
      have hle := String.not_lt.1 hnot
      refine List.pairwise_cons.2 ⟨fun x hx => ?_, h⟩
      rcases List.mem_cons.1 hx with rfl | hx
      · exact hle
      · exact String.le_trans hle (first x hx)

theorem pairwise_sorted (entries : List (Entry α)) :
    (sorted entries).Pairwise fun a b => a.1 ≤ b.1 := by
  induction entries with
  | nil => exact List.Pairwise.nil
  | cons e rest ih => exact pairwise_insertSorted ih

theorem increasing_of_firstRepeat_eq_none {entries : List (Entry α)}
    (h : entries.Pairwise fun a b => a.1 ≤ b.1) (unique : firstRepeat entries = none) :
    Increasing entries := by
  induction entries with
  | nil => exact List.Pairwise.nil
  | cons a rest ih =>
    obtain ⟨first, others⟩ := List.pairwise_cons.1 h
    cases rest with
    | nil => exact List.pairwise_cons.2 ⟨by simp, List.Pairwise.nil⟩
    | cons b rest =>
      simp only [firstRepeat] at unique
      split at unique
      · cases unique
      · rename_i hne
        have tail := ih others unique
        have hab : a.1 < b.1 := by
          refine Decidable.byContradiction fun hlt => hne ?_
          exact String.le_antisymm (first b List.mem_cons_self) (String.not_lt.1 hlt)
        refine List.pairwise_cons.2 ⟨fun x hx => ?_, tail⟩
        rcases List.mem_cons.1 hx with rfl | hx
        · exact hab
        · exact String.lt_trans hab ((List.pairwise_cons.1 tail).1 x hx)

end Entry

end RequestRouter
