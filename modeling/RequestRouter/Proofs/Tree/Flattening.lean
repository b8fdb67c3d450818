import RequestRouter.Proofs.Pattern.Concatenation
import RequestRouter.Proofs.Request.Path
import RequestRouter.Proofs.Tree.Selection

/-!
# Nested patterns in one

Two patterns in a row have the entry of their concatenation in the route table. They also provide
the same, and what they hand on is what the concatenation hands on. The concatenation may accept
requests that the two in a row do not: those for which the first has to give something back.
-/

namespace RequestRouter

namespace RouteTree

open Pattern

variable {source source' : String} {p p' : Pattern}

/-- What a pattern hands on: the captures beside the parameters, and the path cut in two. -/
theorem bindPattern_eq_some (compiled : compile source = .ok p) {s s' : RequestState}
    (h : bindPattern source s = some s') : ∃ m taken left,
      p.matchPrefix s.remaining = some m ∧ m.consumed = Utf8.length taken ∧
        s.remaining.toList = taken ++ left ∧
        s' = { s with
          params := s.params.union m.captures
          consumed := s.consumed ++ String.ofList taken
          remaining := String.ofList left } := by
  simp only [bindPattern, compiled] at h
  obtain ⟨m, found, rfl⟩ := Option.map_eq_some_iff.1 h
  obtain ⟨-, taken, left, -, split, size, -⟩ :=
    found_of_matchPrefix (compiled_of_compile compiled) found
  refine ⟨m, taken, left, found, size, split, ?_⟩
  rw [size]
  exact RequestState.consume_of_split split

/-- Two patterns in a row hand on what their concatenation hands on. -/
theorem bindPattern_append (compiled : compile source = .ok p)
    (compiled' : compile source' = .ok p') (joins : p.Joins p') {s s' s'' : RequestState}
    (first : bindPattern source s = some s') (second : bindPattern source' s' = some s'') :
    bindPattern (source ++ source') s = some s'' := by
  obtain ⟨m, taken, left, found, size, split, rfl⟩ := bindPattern_eq_some compiled first
  obtain ⟨m', taken', left', found', size', split', rfl⟩ := bindPattern_eq_some compiled' second
  obtain ⟨whole, joined, tokens⟩ := compile_append compiled compiled' joins
  have cut : (Utf8.splitAt m.consumed s.remaining.toList).2 = left := by
    rw [size, split, Utf8.splitAt_length_append]
  have both := matchPrefix_of_tokens_append (compiled_of_compile compiled)
    (compiled_of_compile compiled') tokens found (by rw [cut]; exact found')
  have shares : s.remaining.toList = (taken ++ taken') ++ left' := by
    rw [split, List.append_assoc, ← split', String.toList_ofList]
  have sizes : m.consumed + m'.consumed = Utf8.length (taken ++ taken') := by
    rw [size, size', Utf8.length_append]
  have through := RequestState.consume_of_split
    (s := s.withParams (m.captures.union m'.captures)) shares
  simp only [bindPattern, joined, both, Option.map_some, sizes, through]
  simp only [RequestState.withParams, Table.union_assoc, String.ofList_append, String.append_assoc]

variable {t : RouteTree}

/-- The table has one entry for both. -/
theorem describe_bind_bind (source source' path : String) (t : RouteTree) :
    (RouteTree.bind source (.bind source' t)).describe path =
      (RouteTree.bind (source ++ source') t).describe path := by
  rw [describe, describe, describe, String.append_assoc]

/-- They provide the same to what stands below. -/
theorem check_bind_bind (compiled : compile source = .ok p) (compiled' : compile source' = .ok p')
    (joins : p.Joins p') (t : RouteTree) (scope : Scope) :
    (RouteTree.bind source (.bind source' t)).check scope =
      (RouteTree.bind (source ++ source') t).check scope := by
  obtain ⟨whole, joined, tokens⟩ := compile_append compiled compiled' joins
  have first := compiled_of_compile compiled
  have second := compiled_of_compile compiled'
  have both := compiled_of_compile joined
  have same : (scope.nest p).nest p' = scope.nest whole := by
    simp only [Scope.nest, first.source_eq, second.source_eq, both.source_eq,
      schema_append first second both tokens, Table.union_assoc, String.append_assoc]
  simp only [check, compiled, compiled', joined, same]

/-- A request that the two in a row accept is accepted by their concatenation, and run in the same
way. -/
theorem invoke_bind_bind (compiled : compile source = .ok p) (compiled' : compile source' = .ok p')
    (joins : p.Joins p') {s : RequestState}
    (accepted : (RouteTree.bind source (.bind source' t)).accepts s.method s.remaining.toList = true)
    (draft : Draft) :
    (RouteTree.bind (source ++ source') t).accepts s.method s.remaining.toList = true ∧
      (RouteTree.bind (source ++ source') t).invoke s draft =
        (RouteTree.bind source (.bind source' t)).invoke s draft := by
  obtain ⟨s', first, accepted'⟩ := accepts_bind_iff.1 accepted
  obtain ⟨s'', second, further⟩ := accepts_bind_iff.1 accepted'
  have both := bindPattern_append compiled compiled' joins first second
  constructor
  · exact accepts_bind_iff.2 ⟨s'', both, further⟩
  · simp only [invoke, first, second, both]

/-- Two patterns in a row agree with their concatenation, unless they share a parameter or run
together. The concatenation is a pattern; where the first one matches a path and the second one what
the first leaves of it, it takes the bytes of both and captures what they capture. In front of any
tree the two have the entries of the concatenation in the route table and pass the same check, and
a request that they accept is accepted by the concatenation and run in the same way. -/
theorem bind_bind_flattens (compiled : compile source = .ok p)
    (compiled' : compile source' = .ok p') (joins : p.Joins p') :
    ∃ whole, compile (source ++ source') = .ok whole ∧
      (∀ path m m', p.matchPrefix path = some m →
        p'.matchPrefix (String.ofList (Utf8.splitAt m.consumed path.toList).2) = some m' →
        ∃ both, whole.matchPrefix path = some both ∧
          both.consumed = m.consumed + m'.consumed ∧
          both.captures = m.captures.union m'.captures) ∧
      ∀ t, let nested := RouteTree.bind source (.bind source' t)
        let flat := RouteTree.bind (source ++ source') t
        (∀ path, nested.describe path = flat.describe path) ∧
        (∀ scope, nested.check scope = flat.check scope) ∧
        ∀ s draft, nested.accepts s.method s.remaining.toList = true →
          flat.accepts s.method s.remaining.toList = true ∧
            flat.invoke s draft = nested.invoke s draft := by
  obtain ⟨whole, joined, agrees⟩ := matchPrefix_append compiled compiled' joins
  refine ⟨whole, joined, agrees, fun t => ⟨?_, ?_, ?_⟩⟩
  · exact fun path => describe_bind_bind source source' path t
  · exact check_bind_bind compiled compiled' joins t
  · exact fun s draft accepted => invoke_bind_bind compiled compiled' joins accepted draft

def dottedPair : Pattern where
  source := "/:a.:b"
  tokens := [.literal '/', .segment "a", .literal '.', .segment "b"]
  schema := .ofList [("a", .string), ("b", .string)]

def catchAll : Pattern where
  source := "/*c"
  tokens := [.literal '/', .rest "c"]
  schema := .single "c" .string

/-- The first pattern gives up a point to match at all; behind it a `*name` takes the rest. -/
theorem bind_bind_flattens_catch_all :
    let t := RouteTree.ofHandler .get fun _ draft => respond (draft.complete "found")
    let s := RequestState.start ⟨.get, "/x.y.é/q/r", [], []⟩ default
    compile "/:a.:b" = .ok dottedPair ∧ compile "/*c" = .ok catchAll ∧
      dottedPair.Joins catchAll ∧ ∃ whole, compile "/:a.:b/*c" = .ok whole ∧
        (∃ both, whole.matchPrefix "/x.y.é/q/r" = some both ∧ both.consumed = 7 + 4 ∧
          both.captures = Table.union (.ofList [("a", .string "x.y"), ("b", .string "é")])
            (.single "c" (.string "q/r"))) ∧
        (RouteTree.bind "/:a.:b" (.bind "/*c" t)).accepts s.method s.remaining.toList = true ∧
        (RouteTree.bind "/:a.:b/*c" t).invoke s .fresh =
          (RouteTree.bind "/:a.:b" (.bind "/*c" t)).invoke s .fresh := by
  intro t s
  have compiled : compile "/:a.:b" = .ok dottedPair := by rfl
  have compiled' : compile "/*c" = .ok catchAll := by rfl
  have joins : dottedPair.Joins catchAll := by
    refine ⟨by decide, ?_, ?_⟩
    · rintro ⟨name, listed⟩
      simp [dottedPair] at listed
    · intro _ c first
      have head : catchAll.source.toList.head? = some '/' := rfl
      rw [head] at first
      cases first
      rfl
  obtain ⟨whole, joined, agrees, trees⟩ := bind_bind_flattens compiled compiled' joins
  have first : dottedPair.matchPrefix "/x.y.é/q/r" =
      some ⟨7, .ofList [("a", .string "x.y"), ("b", .string "é")]⟩ := by rfl
  have second : catchAll.matchPrefix (String.ofList (Utf8.splitAt 7 "/x.y.é/q/r".toList).2) =
      some ⟨4, .single "c" (.string "q/r")⟩ := by rfl
  have accepted : (RouteTree.bind "/:a.:b" (.bind "/*c" t)).accepts s.method
      s.remaining.toList = true := by decide +kernel
  exact ⟨compiled, compiled', joins, whole, joined, agrees _ _ _ first second, accepted,
    ((trees t).2.2 s .fresh accepted).2⟩

end RouteTree

end RequestRouter
