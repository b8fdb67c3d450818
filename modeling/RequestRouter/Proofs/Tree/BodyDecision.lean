import RequestRouter.Proofs.Tree.BodyParser
import RequestRouter.Proofs.Tree.Unmatched

/-!
# The decision of a body parser

A body parser either answers 400 and leaves its node alone, or hands the request on to it, with the
fields of the body in the shape of the schema and all else as it was.
-/

namespace RequestRouter

/-- The request with the fields of its body in the shape of a schema. -/
structure RequestState.Parsed (schema : Schema) (fields : Record) (s s' : RequestState) : Prop where
  body : ∃ record, s'.body = .structured record ∧ fields.Filled schema record
  /-- The fields that are not declared become extensions. -/
  extensions_eq : s'.extensions = s.extensions.union (fields.subtract schema)
  request_eq : s'.request = s.request
  id_eq : s'.id = s.id
  consumed_eq : s'.consumed = s.consumed
  remaining_eq : s'.remaining = s.remaining
  params_eq : s'.params = s.params
  mixins_eq : s'.mixins = s.mixins
  policy_eq : s'.policy = s.policy

/-- An answer that cannot be sent ends with the error of sending. -/
theorem answer_run_of_unsent {sink : Sink} {log : Log} {r : Response} {cause : ResponseError}
    (unsent : (log.send sink r).1 = .error cause) :
    ((answer r).run sink log).1 = .ok (.error (.response cause)) := by
  have offered : ((Act.offer r : Course Event _).run sink log).1 = .ok (.error cause) :=
    congrArg Except.ok unsent
  have ran : (answer r).run sink log = (.ok (.error (.response cause)), (log.send sink r).2) :=
    Course.run_bind_of_ok offered _
  rw [ran]

namespace Layer

variable {schema : Schema} {policy : ConversionPolicy} {s s' : RequestState} {draft : Draft}

theorem parsed_of_pass (passed : (jsonBody schema policy).pass s = some s') :
    ∃ fields, bodyFields? s.request.body = some fields ∧ s.Parsed schema fields s' := by
  obtain ⟨fields, read, rfl⟩ := pass_jsonBody_fields passed
  exact ⟨fields, read, ⟨_, rfl, fields.filled_fit schema⟩, rfl, rfl, rfl, rfl, rfl, rfl, rfl, rfl⟩

theorem not_rejects_of_lenient {raw : List UInt8}
    (given : raw.all isBlankByte = true ∨ isObject raw = true) :
    ¬ (jsonBody schema .lenient).Rejects raw := by
  rw [rejects_jsonBody_iff, bodyFields?_eq_none_iff]
  rintro (⟨notBlank, noObject⟩ | ⟨strict, -⟩)
  · simp [notBlank, noObject] at given
  · cases strict

/-- A body parser rejects a body that is neither blank nor a JSON object and, under the strict
policy, one that lacks a field of the schema or has it with a value that does not coerce; the
lenient policy rejects no object and no blank body. If the body is rejected, the call is a 400 with
the reason, whatever the node: against a sink that takes it the request counts as handled, and where
it cannot be sent the call ends with the error of sending. Otherwise the call is that of the node,
for the request with the parsed body. -/
theorem jsonBody_decides (schema : Schema) (policy : ConversionPolicy) (s : RequestState)
    (draft : Draft) :
    let parser := jsonBody schema policy
    let raw := s.request.body
    (parser.Rejects raw ↔ raw.all isBlankByte = false ∧ isObject raw = false ∨
      policy = .strict ∧ ∃ fields, bodyFields? raw = some fields ∧
        ∃ name kind, schema.get? name = some kind ∧
          ∀ v, fields.get? name = some v → kind.coerce v = none) ∧
    (policy = .lenient → raw.all isBlankByte = true ∨ isObject raw = true →
      ¬ parser.Rejects raw) ∧
    (parser.Rejects raw → ∃ response, response.status = 400 ∧ ∀ next,
      parser.call next s draft = answer response ∧
      (parser.call next s draft).Answers response ∧
      ∀ sink log cause, (log.send sink response).1 = .error cause →
        ((parser.call next s draft).run sink log).1 = .ok (.error (.response cause))) ∧
    (¬ parser.Rejects raw → ∃ fields s', bodyFields? raw = some fields ∧
      s.Parsed schema fields s' ∧ ∀ next, parser.call next s draft = next.run s' draft) := by
  intro parser raw
  refine ⟨?_, ?_, fun rejects => ?_, fun accepted => ?_⟩
  · rw [rejects_jsonBody_iff, bodyFields?_eq_none_iff]
  · rintro rfl
    exact not_rejects_of_lenient
  · obtain ⟨reason, objects⟩ := rejects
    refine ⟨(draft.withStatus 400).completeText reason, rfl, fun next => ?_⟩
    have called : parser.call next s draft = answer _ :=
      call_of_objection (objection_eq_some_iff.2 ⟨schema, policy, rfl, objects⟩)
    rw [called]
    exact ⟨rfl, answer_answers _, fun _ _ _ => answer_run_of_unsent⟩
  · obtain ⟨s', passed⟩ := exists_pass accepted
    obtain ⟨fields, read, parsed⟩ := parsed_of_pass passed
    exact ⟨fields, s', read, parsed, fun next => call_jsonBody_of_pass passed⟩

/-- The bytes of an object with the text `7` under the name `a`. -/
def sevenBody : List UInt8 :=
  [0x7B, 0x22, 0x61, 0x22, 0x3A, 0x22, 0x37, 0x22, 0x7D]

theorem parse_sevenBody : Json.parse sevenBody = .ok (.object [("a", .string "7")]) := by
  have member : Json.Parser.member (Json.Parser.value 126)
      [0x61, 0x22, 0x3A, 0x22, 0x37, 0x22, 0x7D] = .ok (("a", .string "7"), [0x7D]) := rfl
  have last : Json.Parser.members (Json.Parser.value 126) 8 false (.single "a" (.string "7"))
      [0x7D] = .ok (.object [("a", .string "7")], []) := by
    rw [Json.Parser.members]
    rfl
  have first : Json.Parser.members (Json.Parser.value 126) 9 true .empty
      [0x22, 0x61, 0x22, 0x3A, 0x22, 0x37, 0x22, 0x7D] =
        .ok (.object [("a", .string "7")], []) := by
    rw [Json.Parser.members]
    show Json.Parser.members.next (Json.Parser.value 126) 8 .empty _ = _
    rw [Json.Parser.members.next, member]
    exact last
  have value : Json.Parser.value 127 sevenBody = .ok (.object [("a", .string "7")], []) := first
  rw [Json.parse, Json.Parser.document, value]
  rfl

theorem isObject_sevenBody : isObject sevenBody = true := by
  rw [isObject, parse_sevenBody]

theorem bodyFields?_sevenBody : bodyFields? sevenBody = some (.single "a" (.string "7")) := by
  have value : bodyValue sevenBody = Json.parse sevenBody := rfl
  rw [bodyFields?, value, parse_sevenBody]
  rfl

theorem jsonBody_decides_seven :
    let s := RequestState.start ⟨.post, "/", [], sevenBody⟩ default
    ¬ (jsonBody (.single "a" .integer) .strict).Rejects sevenBody ∧
    (∃ s' record, s'.body = .structured record ∧ record.integer? "a" = some 7 ∧
      s'.path = "/" ∧ ∀ next,
        (jsonBody (.single "a" .integer) .strict).call next s .fresh = next.run s' .fresh) ∧
    (jsonBody (.single "b" .integer) .strict).Rejects sevenBody ∧
    ∃ response, response.status = 400 ∧ ∀ next,
      (jsonBody (.single "b" .integer) .strict).call next s .fresh = answer response := by
  intro s
  obtain ⟨decides, -, -, accepts⟩ := jsonBody_decides (.single "a" .integer) .strict s .fresh
  obtain ⟨decides', -, answers, -⟩ := jsonBody_decides (.single "b" .integer) .strict s .fresh
  have accepted : ¬ (jsonBody (.single "a" .integer) .strict).Rejects sevenBody := by
    refine decides.not.2 ?_
    rintro (⟨-, noObject⟩ | ⟨-, given, read, name, kind, declared, refuses⟩)
    · exact absurd (isObject_sevenBody.symm.trans noObject) (by decide)
    · obtain rfl := Option.some.inj (bodyFields?_sevenBody.symm.trans read)
      rw [Table.get?_single, Option.ite_none_right_eq_some] at declared
      obtain ⟨rfl, same⟩ := declared
      cases same
      cases refuses (.string "7") rfl
  have rejected : (jsonBody (.single "b" .integer) .strict).Rejects sevenBody :=
    decides'.2 (Or.inr ⟨rfl, _, bodyFields?_sevenBody, "b", .integer, rfl, by simp⟩)
  refine ⟨accepted, ?_, rejected, ?_⟩
  · obtain ⟨given, s', read, parsed, called⟩ := accepts accepted
    obtain rfl := Option.some.inj (bodyFields?_sevenBody.symm.trans read)
    obtain ⟨record, body, filled⟩ := parsed.body
    refine ⟨s', record, body, ?_, ?_, called⟩
    · rw [Record.integer?, filled.values "a" .integer rfl]
      decide +kernel
    · rw [RequestState.path, parsed.request_eq]
      decide +kernel
  · obtain ⟨response, status, called⟩ := answers rejected
    exact ⟨response, status, fun next => (called next).1⟩

end Layer

end RequestRouter
