import RequestRouter.Proofs.Pattern.Greedy

/-!
# Concatenated patterns

A source in front of another one is read as the tokens of the first and then those of the second,
unless the two run together where they meet. The concatenation can shorten a capture of the first
pattern for the sake of the second, which two matches in a row cannot. But it does so only where
the second pattern does not match what the first one leaves: if it does, the concatenation takes
what the two take.
-/

namespace RequestRouter.Pattern

def EndsInParam (ts : List Token) : Prop :=
  ∃ t, ts.getLast? = some t ∧ t.param? ≠ none

theorem EndsInParam.cons {ts : List Token} (h : EndsInParam ts) (t : Token) :
    EndsInParam (t :: ts) := by
  obtain ⟨last, isLast, param⟩ := h
  refine ⟨last, ?_, param⟩
  rw [List.getLast?_cons, isLast]
  rfl

theorem endsInParam_segment (name : String) : EndsInParam [.segment name] :=
  ⟨.segment name, rfl, by simp [Token.param?]⟩

section Tokens

variable {skip offset : Nat} {cs cs' : List Char} {ts ts' : List Token}

theorem tokenize_literal {c : Char} (plain : ¬ isMarker c = true) :
    tokenize 0 offset (c :: cs) =
      (tokenize 0 (offset + c.utf8Size) cs).map (.literal c :: ·) := by
  rw [tokenize, if_neg plain]

theorem tokenize_segment {c : Char} (marker : isMarker c = true) (colon : ¬ (c == '*') = true)
    {name : List Char} (read : cs.takeWhile isNameChar = name) (valid : isName name = true) :
    tokenize 0 offset (c :: cs) =
      (tokenize name.length (offset + 1) cs).map (.segment (String.ofList name) :: ·) := by
  simp [tokenize, marker, colon, read, valid]

/-- The offset matters to errors only. -/
theorem tokenize_offset (h : tokenize skip offset cs = .ok ts) (offset' : Nat) :
    tokenize skip offset' cs = .ok ts := by
  fun_induction tokenize skip offset cs generalizing ts offset' with
  | case1 => simpa [tokenize] using h
  | case2 skip offset c cs ih => exact ih h _
  | case3 => cases h
  | case4 offset c cs marker name valid star =>
    rename_i whole
    rw [tokenize, if_pos marker]
    simp only
    rw [if_neg valid, if_pos star, if_pos whole]
    exact h
  | case5 => cases h
  | case6 offset c cs marker name valid star =>
    rename_i ih
    obtain ⟨rest, read, rfl⟩ := except_map_eq_ok_iff.1 h
    rw [tokenize_segment marker star rfl (by simpa using valid), ih read]
    rfl
  | case7 offset c cs marker ih =>
    obtain ⟨rest, read, rfl⟩ := except_map_eq_ok_iff.1 h
    rw [tokenize_literal marker, ih read]
    rfl

theorem tokenize_of_length_le (h : cs.length ≤ skip) : tokenize skip offset cs = .ok [] := by
  induction cs generalizing skip offset with
  | nil => rw [tokenize]
  | cons c cs ih =>
    rw [List.length_cons] at h
    obtain ⟨more, rfl⟩ := Nat.exists_eq_add_of_le' (show 1 ≤ skip by omega)
    rw [tokenize]
    exact ih (by omega)

/-- In front of the second text the first one starts with the name that it starts with by itself,
unless that name runs on. -/
theorem takeWhile_append_of_ends (ends : cs.takeWhile isNameChar = cs →
      ∀ c ∈ cs'.head?, isNameChar c = false) :
    (cs ++ cs').takeWhile isNameChar = cs.takeWhile isNameChar := by
  rw [List.takeWhile_append]
  split
  · rename_i whole
    have all := (List.takeWhile_prefix isNameChar).eq_of_length whole
    have stops : cs'.takeWhile isNameChar = [] := by
      cases cs' with
      | nil => rfl
      | cons d more => simp [ends all d rfl]
    rw [stops, List.append_nil, all]
  · rfl

/-- Reading goes on with the second text where the first one ends: a `*name` keeps the second one
empty, and a name at the end of the first does not run on into the second. -/
theorem tokenize_append (fits : skip ≤ cs.length) (h : tokenize skip offset cs = .ok ts)
    (h' : tokenize 0 0 cs' = .ok ts') (last : (∃ name, .rest name ∈ ts) → cs' = [])
    (apart : EndsInParam ts → ∀ c ∈ cs'.head?, isNameChar c = false) :
    tokenize skip offset (cs ++ cs') = .ok (ts ++ ts') := by
  fun_induction tokenize skip offset cs generalizing ts with
  | case1 skip offset =>
    cases h
    have none : skip = 0 := by simpa using fits
    subst none
    exact tokenize_offset h' offset
  | case2 skip offset c cs ih =>
    rw [List.cons_append, tokenize]
    exact ih (by simpa using fits) h last apart
  | case3 => cases h
  | case4 offset c cs marker name valid star =>
    rename_i whole
    cases h
    have empty := last ⟨_, List.mem_singleton_self _⟩
    subst empty
    cases h'
    simp [tokenize, marker, valid, star, whole, name]
  | case5 => cases h
  | case6 offset c cs marker name valid star =>
    rename_i ih
    obtain ⟨rest, read, rfl⟩ := except_map_eq_ok_iff.1 h
    have tail := ih (List.takeWhile_prefix _).length_le read
      (fun ⟨name, listed⟩ => last ⟨name, List.mem_cons_of_mem _ listed⟩)
      (fun ends => apart (ends.cons _))
    have same : (cs ++ cs').takeWhile isNameChar = name := by
      refine takeWhile_append_of_ends fun all => ?_
      -- nothing of `cs` is left after the name, so its token is the last one
      have nothing : rest = [] := by
        have skipped : tokenize name.length (offset + 1) cs = .ok [] :=
          tokenize_of_length_le (Nat.le_of_eq (congrArg List.length all.symm))
        exact Except.ok.inj (read.symm.trans skipped)
      subst nothing
      exact apart (endsInParam_segment _)
    rw [List.cons_append, tokenize_segment marker star same (by simpa using valid), tail]
    rfl
  | case7 offset c cs marker ih =>
    obtain ⟨rest, read, rfl⟩ := except_map_eq_ok_iff.1 h
    have tail := ih (Nat.zero_le _) read
      (fun ⟨name, listed⟩ => last ⟨name, List.mem_cons_of_mem _ listed⟩)
      (fun ends => apart (ends.cons _))
    rw [List.cons_append, tokenize_literal marker, tail]
    rfl

end Tokens

section Matching

variable {ts ts' : List Token} {cs left left' : List Char} {captures captures' : Captures}

/-- More tokens make no match. -/
theorem matchTokens_append_eq_none (h : matchTokens ts cs = none) (ts' : List Token) :
    matchTokens (ts ++ ts') cs = none := by
  induction ts generalizing cs with
  | nil => cases h
  | cons t ts ih =>
    rcases t.literal_or_capturing with ⟨l, rfl⟩ | ⟨name, p, capturing⟩
    · cases cs with
      | nil => rfl
      | cons c cs =>
        rw [List.cons_append, matchTokens]
        rw [matchTokens] at h
        by_cases same : c = l
        · rw [if_pos same] at h ⊢
          exact ih h
        · rw [if_neg same]
    · rw [capturing.matchTokens_cons, Option.map_eq_none_iff, longestRun_eq_none_iff] at h
      rw [List.cons_append, capturing.matchTokens_cons, Option.map_eq_none_iff,
        longestRun_eq_none_iff]
      exact fun run left isRun => ih (h run left isRun)

/-- The search over both finds first what the search over the first tokens found, if that can be
continued: after every longer run the first tokens fail by themselves. -/
theorem matchTokens_append (h : matchTokens ts cs = some (captures, left))
    (h' : matchTokens ts' left = some (captures', left')) :
    matchTokens (ts ++ ts') cs = some (captures ++ captures', left') := by
  induction ts generalizing cs captures with
  | nil =>
    cases h
    exact h'
  | cons t ts ih =>
    rcases t.literal_or_capturing with ⟨l, rfl⟩ | ⟨name, p, capturing⟩
    · obtain ⟨cs, rfl, found⟩ := matchTokens_literal_some h
      rw [List.cons_append, matchTokens_literal]
      exact ih found
    · rw [capturing.matchTokens_cons] at h
      obtain ⟨⟨run, more, left⟩, found, eq⟩ := Option.map_eq_some_iff.1 h
      cases eq
      obtain ⟨after, isRun, result, longest⟩ := longestRun_some found
      have chosen : longestRun p (matchTokens (ts ++ ts')) cs =
          some (run, more ++ captures', left') := by
        refine longestRun_eq_some_iff.2 ⟨after, isRun, ih result, ?_⟩
        intro longer left' isLonger less
        exact matchTokens_append_eq_none (longest longer left' isLonger less) ts'
      rw [List.cons_append, capturing.matchTokens_cons, chosen]
      rfl

end Matching

/-- The second pattern can stand behind the first: they share no parameter, nothing stands behind a
`*name`, and a name at the end of the first does not run on into the second. -/
structure Joins (p p' : Pattern) : Prop where
  disjoint : ∀ name ∈ p.params, name ∉ p'.params
  restLast : (∃ name, .rest name ∈ p.tokens) → p'.source = ""
  apart : EndsInParam p.tokens → ∀ c ∈ p'.source.toList.head?, isNameChar c = false

variable {source source' : String} {p p' : Pattern}

theorem compile_append (compiled : compile source = .ok p) (compiled' : compile source' = .ok p')
    (joins : p.Joins p') :
    ∃ whole, compile (source ++ source') = .ok whole ∧ whole.tokens = p.tokens ++ p'.tokens := by
  have second := (compiled_of_compile compiled').source_eq
  have read : tokenize 0 0 (source ++ source').toList = .ok (p.tokens ++ p'.tokens) := by
    rw [String.toList_append]
    refine tokenize_append (Nat.zero_le _) (tokenize_of_compile compiled)
      (tokenize_of_compile compiled') (fun rest => ?_) (fun ends => ?_)
    · rw [← second, joins.restLast rest]
      rfl
    · rw [← second]
      exact joins.apart ends
  refine exists_compile read ?_
  have params : paramsOf (p.tokens ++ p'.tokens) = p.params ++ p'.params :=
    List.filterMap_append
  rw [params, List.nodup_append]
  refine ⟨(compiled_of_compile compiled).nodup, (compiled_of_compile compiled').nodup, ?_⟩
  rintro name listed _ listed' rfl
  exact joins.disjoint name listed listed'

/-- The schema of the concatenation has the fields of both. -/
theorem schema_append {whole : Pattern} (compiled : Compiled source p)
    (compiled' : Compiled source' p') (joined : Compiled (source ++ source') whole)
    (tokens : whole.tokens = p.tokens ++ p'.tokens) :
    whole.schema = p.schema.union p'.schema := by
  have params : whole.params = p.params ++ p'.params := by
    rw [Pattern.params, tokens]
    exact List.filterMap_append
  apply Table.ext_get?
  intro name
  rw [Table.get?_union, joined.get?_schema, compiled.get?_schema, compiled'.get?_schema, params]
  by_cases first : name ∈ p.params <;> by_cases second : name ∈ p'.params <;>
    simp [first, second]

/-- A match cuts the path in what its tokens took and what they left. -/
theorem found_of_matchPrefix (compiled : Compiled source p) {path : String} {m : PrefixMatch}
    (h : p.matchPrefix path = some m) : ∃ captures taken left,
      matchTokens p.tokens path.toList = some (captures, left) ∧ path.toList = taken ++ left ∧
        m.consumed = Utf8.length taken ∧ m.captures = captures.record := by
  rw [matchPrefix, findMatch_eq] at h
  obtain ⟨⟨captures, left⟩, found, rfl⟩ := Option.map_eq_some_iff.1 h
  obtain ⟨-, spelled⟩ := greatest_of_matchTokens compiled.nodup found
  refine ⟨captures, _, left, found, spelled.symm, ?_, rfl⟩
  show Utf8.length path.toList - Utf8.length left = _
  rw [← spelled, Utf8.length_append, Nat.add_sub_cancel]

/-- Later captures are a newer record. -/
theorem Captures.record_append (captures captures' : Captures) :
    (captures ++ captures' : Captures).record = captures.record.union captures'.record := by
  rw [record, List.map_append, Table.ofList_append]
  rfl

theorem matchPrefix_of_tokens_append {whole : Pattern} (compiled : Compiled source p)
    (compiled' : Compiled source' p') (tokens : whole.tokens = p.tokens ++ p'.tokens)
    {path : String} {m m' : PrefixMatch} (h : p.matchPrefix path = some m)
    (h' : p'.matchPrefix (String.ofList (Utf8.splitAt m.consumed path.toList).2) = some m') :
    whole.matchPrefix path =
      some ⟨m.consumed + m'.consumed, m.captures.union m'.captures⟩ := by
  obtain ⟨captures, taken, left, found, split, consumed, record⟩ := found_of_matchPrefix compiled h
  have cut : (Utf8.splitAt m.consumed path.toList).2 = left := by
    rw [consumed, split, Utf8.splitAt_length_append]
  rw [cut] at h'
  obtain ⟨captures', taken', left', found', split', consumed', record'⟩ :=
    found_of_matchPrefix compiled' h'
  rw [String.toList_ofList] at found' split'
  have size : Utf8.length path.toList - Utf8.length left' = m.consumed + m'.consumed := by
    rw [split, split', consumed, consumed', Utf8.length_append, Utf8.length_append]
    omega
  have joined : (captures ++ captures' : Captures).record = m.captures.union m'.captures := by
    rw [Captures.record_append, record, record']
  rw [matchPrefix, findMatch_eq, tokens, matchTokens_append found found']
  exact congrArg some (congr (congrArg PrefixMatch.mk size) joined)

/-- A source in front of another compiles, unless the two share a parameter or run together. Where
the first pattern matches a path and the second one what the first leaves of it, the concatenation
matches the path, takes the bytes of both, and captures what they capture. -/
theorem matchPrefix_append (compiled : compile source = .ok p)
    (compiled' : compile source' = .ok p') (joins : p.Joins p') :
    ∃ whole, compile (source ++ source') = .ok whole ∧
      ∀ path m m', p.matchPrefix path = some m →
        p'.matchPrefix (String.ofList (Utf8.splitAt m.consumed path.toList).2) = some m' →
        ∃ both, whole.matchPrefix path = some both ∧
          both.consumed = m.consumed + m'.consumed ∧
          both.captures = m.captures.union m'.captures := by
  obtain ⟨whole, joined, tokens⟩ := compile_append compiled compiled' joins
  refine ⟨whole, joined, fun path m m' first second => ?_⟩
  have both := matchPrefix_of_tokens_append (compiled_of_compile compiled)
    (compiled_of_compile compiled') tokens first second
  exact ⟨_, both, rfl, rfl⟩

/-- Two matches in a row are more than one match of the concatenation needs: the first pattern
commits to all of the segment, the concatenation gives some of it back. -/
example : (do
      let p ← (compile "/:a").toOption
      let p' ← (compile "-x").toOption
      let m ← p.matchPrefix "/u-x-x"
      let m' ← p'.matchPrefix (String.ofList (Utf8.splitAt m.consumed "/u-x-x".toList).2)
      return m.consumed + m'.consumed) = none ∧
    (do
      let whole ← (compile "/:a-x").toOption
      let m ← whole.matchPrefix "/u-x-x"
      return m.consumed) = some 6 := by
  decide +kernel

end RequestRouter.Pattern
