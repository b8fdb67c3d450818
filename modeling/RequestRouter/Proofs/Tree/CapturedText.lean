import Mathlib.Data.List.Forall2
import RequestRouter.Proofs.Tree.Arrival

/-!
# Captured text

What a pattern captures is text of the path that it matched: a non-empty part of it, and one
without a slash where the parameter is a `:name`. Patterns that match one after another, each at the
start of what the one before left, capture parts of one path.
-/

namespace RequestRouter.Pattern

theorem exists_capturing {ts : List Token} {name : String} (listed : name ∈ paramsOf ts) :
    ∃ t ∈ ts, ∃ p, t.Capturing name p := by
  obtain ⟨t, member, param⟩ := List.mem_filterMap.1 listed
  cases t with
  | literal c => cases param
  | segment own =>
    cases param
    exact ⟨_, member, _, .segment name⟩
  | rest own =>
    cases param
    exact ⟨_, member, _, .rest name⟩

/-- What a token stands for is part of what all of them spell out. -/
theorem infix_spell {ts : List Token} {t : Token} (member : t ∈ ts) (value : Assignment) :
    t.spell value <:+: spell value ts :=
  List.infix_of_mem_flatten (List.mem_map_of_mem member)

/-- Text that the pattern of a source captured of a path under a name. -/
structure Captured (path source name text : String) : Prop where
  nonempty : text ≠ ""
  part : text.toList <:+: path.toList
  /-- A `:name` takes no slash. -/
  no_slash : ∀ p, compile source = .ok p → Token.segment name ∈ p.tokens → '/' ∉ text.toList

/-- Every field of the captures holds text that the pattern captured of the path. -/
def CapturesText (path source : String) (captures : Record) : Prop :=
  ∀ name v, captures.get? name = some v → ∃ text, v = .string text ∧ Captured path source name text

/-- The texts of a decomposition are captured ones. -/
theorem Decomposes.captured {source : String} {p : Pattern} (h : compile source = .ok p)
    {path : String} {value : Assignment} (decomposes : Decomposes p.tokens value path.toList)
    {name : String} (listed : name ∈ p.params) :
    Captured path source name (String.ofList (value name)) := by
  obtain ⟨t, member, own, capturing⟩ := exists_capturing listed
  obtain ⟨nonempty, -⟩ := capturing.admits_iff.1 (decomposes.admits t member)
  refine ⟨?_, ?_, fun p' h' segment => ?_⟩
  · rwa [ne_eq, String.ofList_eq_empty_iff]
  · rw [String.toList_ofList, ← capturing.spell_eq value]
    exact (infix_spell member value).trans decomposes.spelled.isInfix
  · obtain rfl : p = p' := Except.ok.inj (h.symm.trans h')
    rw [String.toList_ofList]
    exact (decomposes.admits _ segment).2

theorem capturesText_of_capturesOf {source path : String} {captures : Record}
    (h : capturesOf source path = some captures) : CapturesText path source captures := by
  intro name v found
  unfold capturesOf at h
  cases compiles : compile source with
  | error _ => simp [compiles] at h
  | ok p =>
    rw [compiles] at h
    obtain ⟨m, matched, rfl⟩ := Option.map_eq_some_iff.1 h
    have compiled := compiled_of_compile compiles
    obtain ⟨value, greatest, holds⟩ := matchPrefix_some compiled matched
    have listed : name ∈ p.params := by
      rw [← compiled.mem_names, ← holds.names_eq]
      exact Table.mem_names_iff.2 ⟨v, found⟩
    have text : v = .string (String.ofList (value name)) :=
      Option.some.inj (found.symm.trans (holds.texts name listed))
    exact ⟨_, text, greatest.toDecomposes.captured compiles listed⟩

/-- What a pattern leaves is the end of the path. -/
theorem suffix_of_leftOf {source path left : String} (h : leftOf source path = some left) :
    left.toList <:+ path.toList := by
  unfold leftOf at h
  cases compiles : compile source with
  | error _ => simp [compiles] at h
  | ok p =>
    rw [compiles] at h
    obtain ⟨n, -, rfl⟩ := Option.map_eq_some_iff.1 h
    rw [String.toList_ofList]
    exact ⟨_, Utf8.splitAt_append n path.toList⟩

theorem CapturesText.of_suffix {left path source : String} {captures : Record}
    (h : CapturesText left source captures) (suffix : left.toList <:+ path.toList) :
    CapturesText path source captures := by
  intro name v found
  obtain ⟨text, holds, captured⟩ := h name v found
  exact ⟨text, holds, captured.nonempty, captured.part.trans suffix.isInfix, captured.no_slash⟩

/-- Patterns one after another, from some place in a path on, capture text of that path. -/
theorem capturesText_of_capturesAlong {sources : List String} {path rest : String}
    {captures : List Record} (suffix : rest.toList <:+ path.toList)
    (h : capturesAlong sources rest = some captures) :
    List.Forall₂ (CapturesText path) sources captures := by
  induction sources generalizing rest captures with
  | nil =>
    cases h
    exact .nil
  | cons source sources ih =>
    simp only [capturesAlong, Option.bind_eq_bind, Option.bind_eq_some_iff] at h
    obtain ⟨own, captured, left, remains, inner, further, eq⟩ := h
    cases eq
    refine .cons ((capturesText_of_capturesOf captured).of_suffix suffix) ?_
    exact ih ((suffix_of_leftOf remains).trans suffix) further

end RequestRouter.Pattern
