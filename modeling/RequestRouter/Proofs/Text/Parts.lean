import Mathlib.Data.List.TakeWhile
import RequestRouter.Text.Blank
import RequestRouter.Text.Split

/-!
# Parts of a text

Splitting undoes joining, and cutting at a separator undoes putting it between two texts of which
the first has none. Trimming takes away what surrounds a text and nothing else, so that what is
trimmed begins and ends with a character that is kept.
-/

namespace RequestRouter

section Split

variable {α : Type} [DecidableEq α] {sep : α}

theorem splitParts_eq_splitOn (sep : α) (cs : List α) : splitParts sep cs = cs.splitOn sep := by
  induction cs with
  | nil => rfl
  | cons c cs ih =>
    rw [splitParts, ih, List.splitOn_cons_eq_if_modifyHead]
    by_cases separates : c = sep
    · simp [separates]
    · simp only [separates, if_false, beq_iff_eq]
      cases parts : cs.splitOn sep with
      | nil => exact absurd parts (List.splitOn_ne_nil sep cs)
      | cons part parts => rfl

theorem splitParts_append_cons (a b : List α) :
    splitParts sep (a ++ sep :: b) = splitParts sep a ++ splitParts sep b := by
  simp only [splitParts_eq_splitOn, List.splitOn_append_cons_self]

theorem splitParts_of_not_mem {cs : List α} (plain : sep ∉ cs) : splitParts sep cs = [cs] := by
  rw [splitParts_eq_splitOn, List.splitOn_eq_singleton plain]

/-- The parts of a joined text are the parts of its members, one after the other. -/
theorem splitParts_intercalate {members : List (List α)} (some : members ≠ []) :
    splitParts sep ([sep].intercalate members) = members.flatMap (splitParts sep) := by
  induction members with
  | nil => contradiction
  | cons first rest ih =>
    cases rest with
    | nil => rw [List.intercalate_singleton, List.flatMap_singleton]
    | cons second rest =>
      rw [List.intercalate_cons_cons, List.append_assoc, List.singleton_append,
        splitParts_append_cons, ih (List.cons_ne_nil second rest)]
      rfl

theorem cutFirst_append_cons {before : List α} (plain : sep ∉ before) (after : List α) :
    cutFirst sep (before ++ sep :: after) = (before, some after) := by
  induction before with
  | nil => rw [List.nil_append, cutFirst, if_pos rfl]
  | cons c before ih =>
    have other : c ≠ sep := fun same => plain (same ▸ List.mem_cons_self)
    rw [List.cons_append, cutFirst, if_neg other,
      ih fun member => plain (List.mem_cons_of_mem c member)]

end Split

section Trim

variable {p : Char → Bool} {cs : List Char}

theorem dropWhile_eq_self_iff : cs.dropWhile p = cs ↔ ∀ c ∈ cs.head?, p c = false := by
  rw [List.dropWhile_eq_self_iff]
  cases cs <;> simp

theorem trimBy_eq_self_iff : trimBy p cs = cs ↔
    (∀ c ∈ cs.head?, p c = false) ∧ ∀ c ∈ cs.getLast?, p c = false := by
  rw [← dropWhile_eq_self_iff, ← List.head?_reverse, ← dropWhile_eq_self_iff]
  constructor
  · intro trimmed
    have shorter := (List.dropWhile_sublist p (l := cs)).length_le
    have shortest := (List.dropWhile_sublist p (l := (cs.dropWhile p).reverse)).length_le
    have length := congrArg List.length trimmed
    rw [trimBy, List.length_reverse] at length
    rw [List.length_reverse] at shortest
    have front : cs.dropWhile p = cs :=
      (List.dropWhile_sublist p).eq_of_length (by omega)
    rw [trimBy, front] at trimmed
    exact ⟨front, List.reverse_eq_iff.1 trimmed⟩
  · rintro ⟨front, back⟩
    rw [trimBy, front, back, List.reverse_reverse]

/-- What surrounds a text is taken away. -/
theorem trimBy_append {before after : List Char} (front : ∀ c ∈ before, p c = true)
    (back : ∀ c ∈ after, p c = true) : trimBy p (before ++ cs ++ after) = trimBy p cs := by
  rw [trimBy, List.append_assoc, List.dropWhile_append_of_pos front, List.dropWhile_append, trimBy]
  split
  · rename_i nothing
    have none : after.dropWhile p = [] := List.dropWhile_eq_nil_iff.2 back
    rw [none, List.isEmpty_iff.1 nothing]
  · have behind : ∀ c ∈ after.reverse, p c = true := fun c member =>
      back c (List.mem_reverse.1 member)
    rw [List.reverse_append, List.dropWhile_append_of_pos behind]

theorem kept_of_mem_head?_dropWhile {c : Char} (first : c ∈ (cs.dropWhile p).head?) :
    p c = false := by
  have stops := List.head?_dropWhile_not p cs
  rw [Option.mem_def.1 first] at stops
  exact stops

theorem trimBy_trimBy (p : Char → Bool) (cs : List Char) :
    trimBy p (trimBy p cs) = trimBy p cs := by
  refine trimBy_eq_self_iff.2 ⟨fun c first => ?_, fun c last => ?_⟩
  · -- the first character is that of what is left after the front has been trimmed
    obtain ⟨back, split⟩ : trimBy p cs <+: cs.dropWhile p := by
      rw [trimBy, ← List.reverse_suffix, List.reverse_reverse]
      exact List.dropWhile_suffix p
    have kept : c ∈ (cs.dropWhile p).head? := by
      rw [← split, Option.mem_def, List.head?_append, Option.mem_def.1 first]
      rfl
    exact kept_of_mem_head?_dropWhile kept
  · rw [trimBy, List.getLast?_reverse] at last
    exact kept_of_mem_head?_dropWhile last

/-- Trimming takes away a part at the front and a part at the back. -/
theorem exists_eq_trimBy (p : Char → Bool) (cs : List Char) :
    ∃ before after, cs = before ++ trimBy p cs ++ after ∧ (∀ c ∈ before, p c = true) ∧
      ∀ c ∈ after, p c = true := by
  have front := List.takeWhile_append_dropWhile (p := p) (l := cs)
  have back := List.takeWhile_append_dropWhile (p := p) (l := (cs.dropWhile p).reverse)
  rw [← List.reverse_inj, List.reverse_append, List.reverse_reverse] at back
  refine ⟨cs.takeWhile p, ((cs.dropWhile p).reverse.takeWhile p).reverse, ?_, ?_, ?_⟩
  · rw [trimBy, List.append_assoc, back, front]
  · exact fun c member => List.mem_takeWhile_imp member
  · exact fun c member => List.mem_takeWhile_imp (List.mem_reverse.1 member)

/-- What trimming leaves of a text, if it has none of the characters that are trimmed, is what the
text has between some of them. -/
theorem trimBy_eq_iff {core : List Char} (kept : ∀ c ∈ core, p c = false) :
    trimBy p cs = core ↔ ∃ before after, cs = before ++ core ++ after ∧
      (∀ c ∈ before, p c = true) ∧ ∀ c ∈ after, p c = true := by
  constructor
  · rintro rfl
    exact exists_eq_trimBy p cs
  · rintro ⟨before, after, rfl, front, back⟩
    rw [trimBy_append front back]
    refine trimBy_eq_self_iff.2 ⟨fun c first => ?_, fun c last => ?_⟩
    · exact kept c (List.mem_of_mem_head? first)
    · exact kept c (List.mem_of_mem_getLast? last)

/-- The characters from `!` to `~` are not blank. -/
theorem isBlank_of_visible {c : Char} (least : 0x21 ≤ c.toNat) (most : c.toNat ≤ 0x7E) :
    isBlank c = false := by
  simp only [isBlank, Bool.or_eq_false_iff, Bool.and_eq_false_iff, decide_eq_false_iff_not,
    beq_eq_false_iff_ne]
  omega

end Trim

end RequestRouter
