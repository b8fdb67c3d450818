import RequestRouter.Proofs.Tree.Leaf

/-!
# The paths of simple patterns

Which paths a pattern takes, and what it leaves of them, said by concatenation: for a pattern of
literals, for one that ends in a capture, and for one whose capture ends at the next literal because
the capture cannot contain it.
-/

namespace RequestRouter.Pattern

/-- The text is not empty and consists of `p`-characters. -/
def Fills (p : Char → Bool) (text : String) : Prop :=
  text ≠ "" ∧ ∀ c ∈ text.toList, p c = true

/-- One segment of a path, as a `:name` captures it. -/
def IsSegment (text : String) : Prop :=
  text ≠ "" ∧ '/' ∉ text.toList

/-- The end of a path, as a `*name` captures it. -/
def IsRest (text : String) : Prop :=
  text ≠ "" ∧ '\n' ∉ text.toList

theorem fills_segment_iff {text : String} : Fills isSegmentChar text ↔ IsSegment text := by
  simp only [Fills, IsSegment, isSegmentChar, bne_iff_ne, ne_eq]
  grind

theorem fills_rest_iff {text : String} : Fills isRestChar text ↔ IsRest text := by
  simp only [Fills, IsRest, isRestChar, bne_iff_ne, ne_eq]
  grind

theorem isRun_iff_fills {p : Char → Bool} {text : String} {left cs : List Char} :
    IsRun p text.toList left cs ↔ Fills p text ∧ text.toList ++ left = cs := by
  constructor
  · rintro ⟨nonempty, all, append⟩
    exact ⟨⟨fun empty => nonempty (by rw [empty]; rfl), all⟩, append⟩
  · rintro ⟨⟨nonempty, all⟩, append⟩
    exact ⟨fun empty => nonempty (String.toList_injective empty), all, append⟩

theorem leftOf_eq_some_iff {source : String} {p : Pattern} (compiled : compile source = .ok p)
    {path left : String} : leftOf source path = some left ↔
      ∃ captures, matchTokens p.tokens path.toList = some (captures, left.toList) := by
  have cut := leftBy_eq_leftOf source path
  simp only [RouteTree.leftBy, compiled, findMatch_eq] at cut
  constructor
  · intro leaves
    rw [leaves, Option.map_some, Option.map_eq_some_iff] at cut
    obtain ⟨⟨captures, rest⟩, found, rfl⟩ := cut
    exact ⟨captures, found⟩
  · rintro ⟨captures, found⟩
    rw [found, Option.map_some] at cut
    obtain ⟨own, leaves, same⟩ := Option.map_eq_some_iff.1 cut.symm
    rw [leaves, String.toList_injective same]

/-- A longer run over the same characters goes on with the one that the shorter run leaves. -/
theorem IsRun.head_of_longer {p : Char → Bool} {run longer left left' cs : List Char}
    (h : IsRun p run left cs) (h' : IsRun p longer left' cs)
    (further : run.length < longer.length) : ∃ c, left.head? = some c ∧ p c = true := by
  have whole : run ++ left = longer ++ left' := h.append.trans h'.append.symm
  rcases List.append_eq_append_iff.1 whole with ⟨more, rfl, rfl⟩ | ⟨more, rfl, -⟩
  · cases more with
    | nil => simp at further
    | cons c more => exact ⟨c, rfl, h'.all c (by simp)⟩
  · rw [List.length_append] at further
    omega

/-- A run is the longest where what follows it does not belong to the class. -/
theorem longestRun_of_stops {β : Type} {p : Char → Bool} {next : List Char → Option β}
    {run left cs : List Char} {b : β} (isRun : IsRun p run left cs)
    (stops : ∀ c ∈ left.head?, p c = false) (result : next left = some b) :
    longestRun p next cs = some (run, b) := by
  refine longestRun_eq_some_iff.2 ⟨left, isRun, result, fun longer left' isRun' further => ?_⟩
  obtain ⟨c, first, inside⟩ := isRun.head_of_longer isRun' further
  rw [stops c first] at inside
  cases inside

/-- Literals take themselves. -/
theorem matchTokens_literals_iff {literals : List Char} {ts : List Token} {cs : List Char}
    {found : Found} : matchTokens (literals.map .literal ++ ts) cs = some found ↔
      ∃ rest, cs = literals ++ rest ∧ matchTokens ts rest = some found := by
  induction literals generalizing cs with
  | nil => simp
  | cons l literals ih =>
    rw [List.map_cons, List.cons_append]
    constructor
    · intro taken
      obtain ⟨tail, rfl, further⟩ := matchTokens_literal_some taken
      obtain ⟨rest, rfl, matched⟩ := ih.1 further
      exact ⟨rest, rfl, matched⟩
    · rintro ⟨rest, rfl, matched⟩
      rw [List.cons_append, matchTokens_literal]
      exact ih.2 ⟨rest, rfl, matched⟩

theorem matchTokens_all_literals_iff {literals cs left : List Char} {captures : Captures} :
    matchTokens (literals.map .literal) cs = some (captures, left) ↔
      captures = [] ∧ cs = literals ++ left := by
  have whole : literals.map Token.literal = literals.map .literal ++ [] := (List.append_nil _).symm
  rw [whole, matchTokens_literals_iff]
  constructor
  · rintro ⟨rest, rfl, same⟩
    cases same
    exact ⟨rfl, rfl⟩
  · rintro ⟨rfl, rfl⟩
    exact ⟨left, rfl, rfl⟩

section Capturing

variable {t : Token} {name : String} {p : Char → Bool}

/-- A capture in the last place takes all that it can. -/
theorem matchTokens_last_iff (capturing : t.Capturing name p) {cs left : List Char}
    {captures : Captures} : matchTokens [t] cs = some (captures, left) ↔
      ∃ run, captures = [(name, run)] ∧ IsRun p run left cs ∧ ∀ c ∈ left.head?, p c = false := by
  rw [capturing.matchTokens_cons, Option.map_eq_some_iff]
  constructor
  · rintro ⟨⟨run, none, rest⟩, found, same⟩
    obtain ⟨left', isRun, taken, longest⟩ := longestRun_some found
    cases taken
    cases same
    refine ⟨run, rfl, isRun, fun c first => ?_⟩
    obtain ⟨tail, rfl⟩ := List.head?_eq_some_iff.1 first
    refine Bool.eq_false_iff.2 fun further => ?_
    -- one more character would make a longer run
    have longer : IsRun p (run ++ [c]) tail cs := by
      refine ⟨by simp, ?_, by simp [← isRun.append]⟩
      intro d listed
      rcases List.mem_append.1 listed with own | last
      · exact isRun.all d own
      · rw [List.mem_singleton.1 last]
        exact further
    cases longest _ tail longer (by simp)
  · rintro ⟨run, rfl, isRun, stops⟩
    exact ⟨(run, [], left), longestRun_of_stops isRun stops rfl, rfl⟩

/-- A capture before a literal that it cannot contain ends there. -/
theorem matchTokens_before_iff (capturing : t.Capturing name p) {l : Char} (outside : p l = false)
    {ts : List Token} {cs left : List Char} {captures : Captures} :
    matchTokens (t :: .literal l :: ts) cs = some (captures, left) ↔
      ∃ run rest inner, captures = (name, run) :: inner ∧ IsRun p run (l :: rest) cs ∧
        matchTokens ts rest = some (inner, left) := by
  rw [capturing.matchTokens_cons, Option.map_eq_some_iff]
  constructor
  · rintro ⟨⟨run, inner, left'⟩, found, same⟩
    obtain ⟨tail, isRun, taken, -⟩ := longestRun_some found
    obtain ⟨rest, rfl, matched⟩ := matchTokens_literal_some taken
    cases same
    exact ⟨run, rest, inner, rfl, isRun, matched⟩
  · rintro ⟨run, rest, inner, rfl, isRun, matched⟩
    refine ⟨(run, inner, left), longestRun_of_stops isRun ?_ ?_, rfl⟩
    · rintro c ⟨⟩
      exact outside
    · rw [matchTokens_literal, matched]

end Capturing

section Sources

variable {source : String} {pattern : Pattern} (compiled : compile source = .ok pattern)
  {path left : String}
include compiled

/-- A pattern of literals takes its own source. -/
theorem leftOf_literals (plain : pattern.tokens = source.toList.map .literal) :
    leftOf source path = some left ↔ path = source ++ left := by
  simp only [leftOf_eq_some_iff compiled, plain, matchTokens_all_literals_iff]
  constructor
  · rintro ⟨captures, -, split⟩
    exact String.toList_injective (by rw [String.toList_append, split])
  · rintro rfl
    exact ⟨[], rfl, String.toList_append⟩

variable (start stop : String) {t : Token} {name : String} {p : Char → Bool}

/-- Literals and a capture take the literals and as much as the capture can hold. -/
theorem leftOf_last (capturing : t.Capturing name p)
    (tokens : pattern.tokens = start.toList.map .literal ++ [t]) :
    leftOf source path = some left ↔
      ∃ text, Fills p text ∧ path = start ++ text ++ left ∧
        ∀ c ∈ left.toList.head?, p c = false := by
  simp only [leftOf_eq_some_iff compiled, tokens, matchTokens_literals_iff,
    matchTokens_last_iff capturing]
  constructor
  · rintro ⟨captures, rest, split, run, -, isRun, stops⟩
    rw [← String.toList_ofList (l := run), isRun_iff_fills] at isRun
    obtain ⟨fills, rfl⟩ := isRun
    refine ⟨String.ofList run, fills, String.toList_injective ?_, stops⟩
    rw [split, String.toList_append, String.toList_append, List.append_assoc]
  · rintro ⟨text, fills, rfl, stops⟩
    refine ⟨_, text.toList ++ left.toList, ?_, text.toList, rfl, ?_, stops⟩
    · rw [String.toList_append, String.toList_append, List.append_assoc]
    · exact isRun_iff_fills.2 ⟨fills, rfl⟩

/-- Literals on both sides of a capture that cannot hold the first of the second ones. -/
theorem leftOf_between (capturing : t.Capturing name p) {l : Char}
    (first : stop.toList.head? = some l) (outside : p l = false)
    (tokens : pattern.tokens = start.toList.map .literal ++ t :: stop.toList.map .literal) :
    leftOf source path = some left ↔
      ∃ text, Fills p text ∧ path = start ++ text ++ stop ++ left := by
  obtain ⟨more, literals⟩ := List.head?_eq_some_iff.1 first
  simp only [leftOf_eq_some_iff compiled, tokens, literals, List.map_cons,
    matchTokens_literals_iff, matchTokens_before_iff capturing outside,
    matchTokens_all_literals_iff]
  constructor
  · rintro ⟨captures, rest, split, run, rest', inner, -, isRun, -, rfl⟩
    rw [← String.toList_ofList (l := run), isRun_iff_fills] at isRun
    obtain ⟨fills, rfl⟩ := isRun
    refine ⟨String.ofList run, fills, String.toList_injective ?_⟩
    simp [split, literals]
  · rintro ⟨text, fills, rfl⟩
    refine ⟨_, text.toList ++ l :: (more ++ left.toList), ?_, text.toList, more ++ left.toList, [],
      rfl, isRun_iff_fills.2 ⟨fills, rfl⟩, rfl, rfl⟩
    simp [literals]

end Sources

end RequestRouter.Pattern
