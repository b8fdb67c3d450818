import RequestRouter.Pattern.Basic
import RequestRouter.Proofs.Except
import RequestRouter.Proofs.Table.Distinct

/-!
# Compiled patterns

What it means for a source to have compiled: its tokens spell it out, a `*name` stands last, the
names are distinct, and the schema has a string field for each of them.
-/

namespace RequestRouter.Pattern

def RestLast (ts : List Token) : Prop :=
  ∀ before name after, ts = before ++ .rest name :: after → after = []

theorem RestLast.nil : RestLast [] := by
  intro before name after h
  simp at h

theorem RestLast.singleton (t : Token) : RestLast [t] := by
  intro before name after h
  cases before with
  | nil => exact (List.cons.inj h).2.symm
  | cons _ before => simp at h

/-- A token other than `*name` may stand in front. -/
theorem RestLast.cons {t : Token} {ts : List Token} (notRest : ∀ name, t ≠ .rest name)
    (h : RestLast ts) : RestLast (t :: ts) := by
  intro before name after eq
  cases before with
  | nil => exact absurd (List.cons.inj eq).1 (notRest name)
  | cons _ before => exact h before name after (List.cons.inj eq).2

/-- The tokens spell out what they were read from. -/
theorem tokenize_source {skip offset : Nat} {cs : List Char} {ts : List Token}
    (h : tokenize skip offset cs = .ok ts) : ts.flatMap Token.source = cs.drop skip := by
  fun_induction tokenize skip offset cs generalizing ts with
  | case1 =>
    cases h
    simp
  | case2 skip offset c cs ih => exact ih h
  | case3 => cases h
  | case4 offset c cs marker name valid star =>
    rename_i whole
    cases h
    have all : name = cs :=
      (List.takeWhile_prefix isNameChar).eq_of_length whole
    have first : c = '*' := by simpa using star
    simp [Token.source, all, first]
  | case5 => cases h
  | case6 offset c cs marker name valid star =>
    rename_i ih
    obtain ⟨rest, read, rfl⟩ := except_map_eq_ok_iff.1 h
    have first : c = ':' := by
      have either : c = ':' ∨ c = '*' := by simpa [isMarker] using marker
      exact either.resolve_right (by simpa using star)
    obtain ⟨left, split⟩ := List.takeWhile_prefix (l := cs) isNameChar
    change name ++ left = cs at split
    have after : cs.drop name.length = left := by
      rw [← split, List.drop_left]
    simp [Token.source, ih read, first, after, split]
  | case7 offset c cs marker ih =>
    obtain ⟨rest, read, rfl⟩ := except_map_eq_ok_iff.1 h
    simp [Token.source, ih read]

theorem tokenize_restLast {skip offset : Nat} {cs : List Char} {ts : List Token}
    (h : tokenize skip offset cs = .ok ts) : RestLast ts := by
  fun_induction tokenize skip offset cs generalizing ts with
  | case1 =>
    cases h
    exact RestLast.nil
  | case2 skip offset c cs ih => exact ih h
  | case3 => cases h
  | case4 offset c cs marker name valid star =>
    cases h
    exact RestLast.singleton _
  | case5 => cases h
  | case6 offset c cs marker name valid star =>
    rename_i ih
    obtain ⟨rest, read, rfl⟩ := except_map_eq_ok_iff.1 h
    exact (ih read).cons (by simp)
  | case7 offset c cs marker ih =>
    obtain ⟨rest, read, rfl⟩ := except_map_eq_ok_iff.1 h
    exact (ih read).cons (by simp)

structure Compiled (source : String) (p : Pattern) : Prop where
  source_eq : p.source = source
  spelled : p.tokens.flatMap Token.source = source.toList
  restLast : RestLast p.tokens
  nodup : p.params.Nodup
  /-- The schema has a string field for each parameter and no other field. -/
  mem_schema : ∀ name kind, (name, kind) ∈ p.schema.entries ↔ name ∈ p.params ∧ kind = .string

theorem compiled_of_compile {source : String} {p : Pattern} (h : compile source = .ok p) :
    Compiled source p := by
  unfold compile at h
  split at h
  · cases h
  · cases h
  · rename_i tokens read
    split at h
    · cases h
    · rename_i schema made
      cases h
      refine ⟨rfl, tokenize_source read, tokenize_restLast read, ?_, ?_⟩
      · have names := Table.nodup_of_ofDistinct made
        simpa [Entry.names, Function.comp_def, params] using names
      · intro name kind
        rw [Table.mem_ofDistinct made]
        simp [params, and_comm, eq_comm]

theorem tokenize_of_compile {source : String} {p : Pattern} (h : compile source = .ok p) :
    tokenize 0 0 source.toList = .ok p.tokens := by
  unfold compile at h
  split at h
  · cases h
  · cases h
  · rename_i tokens read
    split at h
    · cases h
    · cases h
      exact read

/-- Tokens of distinct names make a pattern. -/
theorem exists_compile {source : String} {tokens : List Token}
    (read : tokenize 0 0 source.toList = .ok tokens) (distinct : (paramsOf tokens).Nodup) :
    ∃ p, compile source = .ok p ∧ p.tokens = tokens := by
  have names : (Entry.names ((paramsOf tokens).map (·, FieldKind.string))).Nodup := by
    simpa [Entry.names, Function.comp_def] using distinct
  obtain ⟨schema, made⟩ := Table.exists_ofDistinct names
  refine ⟨⟨source, tokens, schema⟩, ?_, rfl⟩
  simp only [compile, read, made]

namespace Compiled

variable {source : String} {p : Pattern}

theorem mem_names (h : Compiled source p) {name : String} :
    name ∈ p.schema.names ↔ name ∈ p.params := by
  simp [Table.names, Entry.mem_names, h.mem_schema]

theorem get?_schema (h : Compiled source p) (name : String) :
    p.schema.get? name = if name ∈ p.params then some .string else none := by
  apply Option.ext
  intro kind
  rw [Table.get?_eq_some_iff, h.mem_schema]
  by_cases listed : name ∈ p.params
  · simp [listed, eq_comm]
  · simp [listed]

theorem mem_names_schema (h : Compiled source p) (name : String) :
    name ∈ p.schema.names ↔ name ∈ p.params := by
  simp [Table.mem_names_iff, h.get?_schema]

end Compiled

end RequestRouter.Pattern
