import RequestRouter.Pattern.Match

/-!
# Matching at all suffixes

Backtracking may look at the same tokens and the same rest of a text again and again. Here each
token is matched once at every suffix of the text, from the last token to the first, so the cost
is the product of the two lengths. The main statement, `findMatch_eq`, says that the result is
that of `matchTokens`.
-/

namespace RequestRouter.Pattern

/-- The suffixes of a text, from the whole text down to the empty one. -/
def suffixes : List Char → List (List Char)
  | [] => [[]]
  | c :: cs => (c :: cs) :: suffixes cs

/-- A literal at every suffix of `cs`; `after` holds what the tokens after it give there. -/
def literalAtSuffixes {β : Type} (l : Char) (cs : List Char) (after : List (Option β)) :
    List (Option β) :=
  List.zipWith (fun c found => if c = l then found else none) cs after.tail ++ [none]

/-- The longest run at every suffix of `cs`; `after` holds what is found there after a run. -/
def runsAtSuffixes {β : Type} (p : Char → Bool) (cs : List Char) (after : List (Option β)) :
    List (Option (List Char × β)) :=
  (cs.zip after.tail).foldr
    (fun (c, here) runs => extendRun p c here (runs.headD none) :: runs) [none]

def captureAtSuffixes (name : String) (p : Char → Bool) (cs : List Char)
    (after : List (Option Found)) : List (Option Found) :=
  (runsAtSuffixes p cs after).map (·.map (bindRun name))

def matchAtSuffixes : List Token → List Char → List (Option Found)
  | [], cs => (suffixes cs).map fun left => some ([], left)
  | .literal l :: ts, cs => literalAtSuffixes l cs (matchAtSuffixes ts cs)
  | .segment name :: ts, cs => captureAtSuffixes name isSegmentChar cs (matchAtSuffixes ts cs)
  | .rest name :: ts, cs => captureAtSuffixes name isRestChar cs (matchAtSuffixes ts cs)

/-- The match of the tokens at the start of `cs`. Literals in front of the first capture are
compared one by one. -/
def findMatch : List Token → List Char → Option Found
  | .literal _ :: _, [] => none
  | .literal l :: ts, c :: cs => if c = l then findMatch ts cs else none
  | ts, cs => (matchAtSuffixes ts cs).headD none

theorem suffixes_eq_cons (cs : List Char) : ∃ rest, suffixes cs = cs :: rest := by
  cases cs <;> exact ⟨_, rfl⟩

theorem headD_map_suffixes {β : Type} (f : List Char → Option β) (cs : List Char) :
    ((suffixes cs).map f).headD none = f cs := by
  obtain ⟨rest, h⟩ := suffixes_eq_cons cs
  simp [h]

theorem literalAtSuffixes_map (l : Char) (ts : List Token) (cs : List Char) :
    literalAtSuffixes l cs ((suffixes cs).map (matchTokens ts)) =
      (suffixes cs).map (matchTokens (.literal l :: ts)) := by
  induction cs with
  | nil => rfl
  | cons c cs ih =>
    obtain ⟨rest, h⟩ := suffixes_eq_cons cs
    simp only [literalAtSuffixes, h] at ih
    simp [literalAtSuffixes, suffixes, h, matchTokens, ← ih]

theorem runsAtSuffixes_map {β : Type} (p : Char → Bool) (next : List Char → Option β)
    (cs : List Char) :
    runsAtSuffixes p cs ((suffixes cs).map next) = (suffixes cs).map (longestRun p next) := by
  induction cs with
  | nil => rfl
  | cons c cs ih =>
    have head := headD_map_suffixes (longestRun p next) cs
    obtain ⟨rest, h⟩ := suffixes_eq_cons cs
    rw [← ih] at head
    simp only [suffixes, List.map_cons, longestRun, ← ih, ← head]
    simp [runsAtSuffixes, h]

theorem captureAtSuffixes_map (name : String) (p : Char → Bool)
    (next : List Char → Option Found) (cs : List Char) :
    captureAtSuffixes name p cs ((suffixes cs).map next) =
      (suffixes cs).map (capture name p next) := by
  simp [captureAtSuffixes, runsAtSuffixes_map, capture]

/-- The table of results holds at each suffix what backtracking finds there. -/
theorem matchAtSuffixes_eq (ts : List Token) (cs : List Char) :
    matchAtSuffixes ts cs = (suffixes cs).map (matchTokens ts) := by
  induction ts with
  | nil => simp [matchAtSuffixes, matchTokens]
  | cons t ts ih =>
    cases t with
    | literal l => rw [matchAtSuffixes, ih, literalAtSuffixes_map]
    | segment name =>
      rw [matchAtSuffixes, ih, captureAtSuffixes_map]
      simp [matchTokens]
    | rest name =>
      rw [matchAtSuffixes, ih, captureAtSuffixes_map]
      simp [matchTokens]

theorem findMatch_eq (ts : List Token) (cs : List Char) : findMatch ts cs = matchTokens ts cs := by
  fun_induction findMatch ts cs with
  | case1 => rfl
  | case2 l ts cs ih => simpa [matchTokens] using ih
  | case3 l ts c cs h => simp [matchTokens, h]
  | case4 ts cs => rw [matchAtSuffixes_eq, headD_map_suffixes]

end RequestRouter.Pattern
