import RequestRouter.Proofs.Pattern.Concatenation
import RequestRouter.Proofs.Pattern.Paths

/-!
# Substitution

Values written in the places of a pattern's parameters make a path, and matching takes this path
apart into the same values. They may be any text that the parameters admit, such as the literals of
the pattern itself: a `:name` value cannot hold the slash that ends it, and a `*name` value ends
with the path, so that no other decomposition is as long.
-/

namespace RequestRouter.Pattern

/-- The name can stand behind a marker. -/
def IsParam (name : String) : Prop :=
  isName name.toList = true ∧ ∀ c ∈ name.toList, isNameChar c = true

instance (name : String) : Decidable (IsParam name) :=
  decidable_of_iff (isName name.toList = true ∧ name.toList.all isNameChar = true)
    (and_congr_right fun _ => List.all_eq_true)

/-- The parts of a source in which every `:name` ends the source or stands before a slash, and a
`*name` ends it. -/
def Separated : List Token → Prop
  | [] => True
  | .literal c :: ts => isMarker c = false ∧ Separated ts
  | .segment name :: ts => IsParam name ∧ (∀ t ∈ ts.head?, t = .literal '/') ∧ Separated ts
  | .rest name :: ts => IsParam name ∧ ts = []

instance decidableSeparated : (ts : List Token) → Decidable (Separated ts)
  | [] => isTrue trivial
  | .literal c :: ts =>
    have := decidableSeparated ts
    inferInstanceAs (Decidable (isMarker c = false ∧ _))
  | .segment name :: ts =>
    have := decidableSeparated ts
    inferInstanceAs (Decidable (IsParam name ∧ (∀ t ∈ ts.head?, t = .literal '/') ∧ _))
  | .rest name :: ts => inferInstanceAs (Decidable (IsParam name ∧ ts = []))

def sourceOf (ts : List Token) : String :=
  String.ofList (ts.flatMap Token.source)

/-- The path with a value in the place of each parameter. -/
def pathOf (value : Assignment) (ts : List Token) : String :=
  String.ofList (spell value ts)

/-- What may stand behind the path: nothing behind a `*name`, else nothing or more segments. -/
structure Follows (ts : List Token) (suffix : List Char) : Prop where
  slash : ∀ c ∈ suffix.head?, c = '/'
  restLast : (∃ name, .rest name ∈ ts) → suffix = []

theorem Follows.tail {t : Token} {ts : List Token} {suffix : List Char}
    (h : Follows (t :: ts) suffix) : Follows ts suffix :=
  ⟨h.slash, fun ⟨name, listed⟩ => h.restLast ⟨name, List.mem_cons_of_mem t listed⟩⟩

section Reading

variable {name : String} {ts : List Token} {after : List Char}

theorem takeWhile_param (named : IsParam name) (ends : ∀ c ∈ after.head?, isNameChar c = false) :
    (name.toList ++ after).takeWhile isNameChar = name.toList := by
  rw [List.takeWhile_append_of_pos named.2]
  cases after with
  | nil => simp
  | cons c after => simp [ends c rfl]

theorem tokenize_skip (skipped after : List Char) (offset : Nat) :
    tokenize skipped.length offset (skipped ++ after) =
      tokenize 0 (offset + Utf8.length skipped) after := by
  induction skipped generalizing offset with
  | nil => rfl
  | cons c skipped ih =>
    rw [List.length_cons, List.cons_append, tokenize, ih, Utf8.length_cons, Nat.add_assoc]

/-- A source with these parts is read as these parts. -/
theorem tokenize_flatMap_source (separated : Separated ts) (offset : Nat) :
    tokenize 0 offset (ts.flatMap Token.source) = .ok ts := by
  induction ts generalizing offset with
  | nil => rfl
  | cons t ts ih =>
    rw [List.flatMap_cons]
    cases t with
    | literal c =>
      obtain ⟨plain, others⟩ := separated
      rw [Token.source, List.singleton_append, tokenize_literal (by simp [plain]), ih others]
      rfl
    | segment name =>
      obtain ⟨named, slash, others⟩ := separated
      have ends : ∀ c ∈ (ts.flatMap Token.source).head?, isNameChar c = false := by
        cases ts with
        | nil => simp
        | cons t ts =>
          obtain rfl := slash t rfl
          simp [Token.source]
          decide
      rw [Token.source, List.cons_append,
        tokenize_segment rfl (by decide) (takeWhile_param named ends) named.1, tokenize_skip,
        ih others, String.ofList_toList]
      rfl
    | rest name =>
      obtain ⟨named, rfl⟩ := separated
      have read : (name.toList ++ []).takeWhile isNameChar = name.toList :=
        takeWhile_param named (by simp)
      rw [List.append_nil] at read
      simp [Token.source, tokenize, isMarker, read, named.1]

theorem exists_compile_sourceOf (separated : Separated ts) (distinct : (paramsOf ts).Nodup) :
    ∃ p, compile (sourceOf ts) = .ok p ∧ p.tokens = ts := by
  refine exists_compile ?_ distinct
  rw [sourceOf, String.toList_ofList]
  exact tokenize_flatMap_source separated 0

end Reading

section Matching

variable {ts : List Token} {value : Assignment} {suffix : List Char}

/-- A value after which its token cannot go on is captured as it is. -/
theorem matchTokens_spell_of_stops {t : Token} {name : String} {p : Char → Bool}
    (capturing : t.Capturing name p) (admits : t.Admits value) {left left' : List Char}
    {captures : Captures} (stops : ∀ c ∈ left.head?, p c = false)
    (result : matchTokens ts left = some (captures, left')) :
    matchTokens (t :: ts) (t.spell value ++ left) =
      some ((name, value name) :: captures, left') := by
  obtain ⟨nonempty, all⟩ := capturing.admits_iff.1 admits
  rw [capturing.matchTokens_cons, capturing.spell_eq,
    longestRun_of_stops ⟨nonempty, all, rfl⟩ stops result]
  rfl

/-- Matching takes a path apart into the values that it was made of. -/
theorem matchTokens_spell (separated : Separated ts) (admits : ∀ t ∈ ts, t.Admits value)
    (follows : Follows ts suffix) :
    matchTokens ts (spell value ts ++ suffix) =
      some ((paramsOf ts).map fun name => (name, value name), suffix) := by
  induction ts with
  | nil => rfl
  | cons t ts ih =>
    obtain ⟨own, others⟩ := List.forall_mem_cons.1 admits
    rw [spell, List.flatMap_cons, List.append_assoc]
    cases t with
    | literal c => exact matchTokens_literal.trans (ih separated.2 others follows.tail)
    | segment name =>
      obtain ⟨-, slash, further⟩ := separated
      refine matchTokens_spell_of_stops (.segment name) own (fun c first => ?_)
        (ih further others follows.tail)
      -- what follows the value is nothing or a slash
      have isSlash : c = '/' := by
        cases ts with
        | nil => exact follows.slash c first
        | cons t ts =>
          obtain rfl := slash t rfl
          exact (Option.some.inj first).symm
      rw [isSlash]
      rfl
    | rest name =>
      obtain ⟨-, rfl⟩ := separated
      obtain rfl := follows.restLast ⟨name, List.mem_cons_self⟩
      exact matchTokens_spell_of_stops (.rest name) own (by simp) rfl

theorem get?_record_map (value : Assignment) {names : List String} (distinct : names.Nodup)
    (name : String) :
    (Captures.record (names.map fun name => (name, value name))).get? name =
      if name ∈ names then some (.string (String.ofList (value name))) else none := by
  have listed : (names.map fun name => (name, value name)).map Prod.fst = names := by
    simp [Function.comp_def]
  split
  · rename_i member
    rw [Captures.get?_record (by rwa [listed]) (by rwa [listed]),
      Captures.assignment_of_mem (by rwa [listed]) (List.mem_map.2 ⟨name, member, rfl⟩)]
  · rename_i outside
    rw [Table.get?_eq_none_iff, Captures.names_record, listed]
    exact outside

end Matching

theorem matchPrefix_of_separated {p : Pattern} {value : Assignment} {suffix : String}
    (separated : Separated p.tokens) (admits : ∀ t ∈ p.tokens, t.Admits value)
    (follows : Follows p.tokens suffix.toList) :
    p.matchPrefix (pathOf value p.tokens ++ suffix) =
      some ⟨(pathOf value p.tokens).utf8ByteSize,
        Captures.record (p.params.map fun name => (name, value name))⟩ := by
  have split : (pathOf value p.tokens ++ suffix).toList =
      spell value p.tokens ++ suffix.toList := by
    rw [String.toList_append, pathOf, String.toList_ofList]
  have size : Utf8.length (spell value p.tokens ++ suffix.toList) - Utf8.length suffix.toList =
      (pathOf value p.tokens).utf8ByteSize := by
    rw [Utf8.length_append, Nat.add_sub_cancel, Utf8.length_ofList, pathOf]
  rw [matchPrefix, findMatch_eq, split, matchTokens_spell separated admits follows, ← size]
  rfl

/-- A source of separated parts with distinct names compiles. The path that is made of it with
admitted values matches, also where something follows the path: the match takes the bytes of the
path and no more, and captures the values and nothing else. -/
theorem matchPrefix_pathOf {ts : List Token} (separated : Separated ts)
    (distinct : (paramsOf ts).Nodup) {value : Assignment} (admits : ∀ t ∈ ts, t.Admits value)
    {suffix : String} (follows : Follows ts suffix.toList) :
    ∃ p, compile (sourceOf ts) = .ok p ∧
      ∃ m, p.matchPrefix (pathOf value ts ++ suffix) = some m ∧
        m.consumed = (pathOf value ts).utf8ByteSize ∧
        ∀ name, m.captures.get? name =
          if name ∈ paramsOf ts then some (.string (String.ofList (value name))) else none := by
  obtain ⟨p, compiled, rfl⟩ := exists_compile_sourceOf separated distinct
  exact ⟨p, compiled, _, matchPrefix_of_separated separated admits follows, rfl,
    get?_record_map value distinct⟩

def fileParts : List Token :=
  [.literal '/', .segment "user", .literal '/', .literal '.', .literal 'x', .literal '/',
    .segment "file", .literal '/', .rest "rest"]

/-- A user who is named like the literal behind it, a file whose name is an expression, and a rest
with slashes. -/
def fileValues : Assignment
  | "user" => ['.', 'x']
  | "file" => ['(', 'é', '|', '*', ')']
  | _ => ['/', 'a', '/', ':', 'b']

theorem matchPrefix_pathOf_file :
    Separated fileParts ∧ (paramsOf fileParts).Nodup ∧
      (∀ t ∈ fileParts, t.Admits fileValues) ∧ Follows fileParts [] ∧
      sourceOf fileParts = "/:user/.x/:file/*rest" ∧
      pathOf fileValues fileParts = "/.x/.x/(é|*)//a/:b" ∧
      ∃ p m, compile "/:user/.x/:file/*rest" = .ok p ∧
        p.matchPrefix "/.x/.x/(é|*)//a/:b" = some m ∧ m.consumed = 19 ∧
        m.captures.get? "file" = some (.string "(é|*)") ∧
        m.captures.get? "rest" = some (.string "/a/:b") ∧ m.captures.get? "x" = none := by
  have separated : Separated fileParts := by decide
  have distinct : (paramsOf fileParts).Nodup := by decide
  have admits : ∀ t ∈ fileParts, t.Admits fileValues := by
    simp [fileParts, Token.Admits, fileValues]
  have follows : Follows fileParts ("" : String).toList := ⟨by simp, fun _ => rfl⟩
  have source : sourceOf fileParts = "/:user/.x/:file/*rest" := rfl
  have path : pathOf fileValues fileParts = "/.x/.x/(é|*)//a/:b" := rfl
  obtain ⟨p, compiled, m, found, consumed, captures⟩ :=
    matchPrefix_pathOf separated distinct admits follows
  rw [path] at found consumed
  exact ⟨separated, distinct, admits, follows, source, path, p, m, source ▸ compiled, found,
    consumed, captures "file", captures "rest", captures "x"⟩

end RequestRouter.Pattern
