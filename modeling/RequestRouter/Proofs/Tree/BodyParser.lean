import RequestRouter.Proofs.Record.Accounts
import RequestRouter.Proofs.Tree.Selection

/-!
# Which bodies a parser rejects

A body parser rejects a body that is not blank and no JSON object. Of the others the strict policy
rejects those in which a declared field is absent or does not coerce, and the lenient policy none.
-/

namespace RequestRouter

theorem Record.convert_strict_fails_iff {r : Record} {target : Schema} :
    (∃ cause, r.convert target .strict = .error cause) ↔
      ∃ name kind, target.get? name = some kind ∧
        ∀ v, r.get? name = some v → kind.coerce v = none := by
  have result := strict_convert r target
  generalize r.convert target .strict = converted at result
  cases result with
  | mistyped unfit _ =>
    obtain ⟨declared, v, given, refuses⟩ := unfit
    refine iff_of_true ⟨_, rfl⟩ ⟨_, _, declared, fun w held => ?_⟩
    rw [given] at held
    cases held
    exact refuses
  | missing _ lacks =>
    obtain ⟨name, listed⟩ := List.exists_mem_of_ne_nil _ lacks
    obtain ⟨declared, absent⟩ := List.mem_filter.1 listed
    obtain ⟨kind, own⟩ := Table.mem_names_iff.1 declared
    refine iff_of_true ⟨_, rfl⟩ ⟨name, kind, own, fun v held => ?_⟩
    exact absurd (Table.mem_names_iff.2 ⟨v, held⟩) (by simpa using absent)
  | complete coerces covered _ =>
    refine iff_of_false (by simp) ?_
    rintro ⟨name, kind, declared, refuses⟩
    have named : name ∈ target.names := Table.mem_names_iff.2 ⟨kind, declared⟩
    obtain ⟨v, given⟩ := Table.mem_names_iff.1 (covered name named)
    exact coerces name kind ⟨declared, v, given, refuses v given⟩

namespace Layer

def isObject (raw : List UInt8) : Bool :=
  match Json.parse raw with
  | .ok (.object _) => true
  | _ => false

/-- The fields of a body: those of a JSON object, or none in a blank body. -/
def bodyFields? (raw : List UInt8) : Option Record :=
  match bodyValue raw with
  | .ok (.object members) => some (Table.ofList members)
  | _ => none

variable {schema : Schema} {policy : ConversionPolicy} {raw : List UInt8}

theorem bodyFields?_eq_none_iff :
    bodyFields? raw = none ↔ raw.all isBlankByte = false ∧ isObject raw = false := by
  unfold bodyFields? bodyValue isObject
  cases blank : raw.all isBlankByte with
  | true => simp
  | false =>
    rcases Json.parse raw with e | v
    · simp
    · cases v <;> simp

theorem readBody_of_fields {fields : Record} (read : bodyFields? raw = some fields) :
    readBody schema policy raw =
      (fields.convert schema policy).mapError fun e => "Invalid request body: " ++ e.message := by
  unfold bodyFields? at read
  unfold readBody
  split at read
  · rename_i members value
    cases read
    rw [value]
    rfl
  · cases read

variable (schema policy) in
theorem readBody_of_no_fields (lacks : bodyFields? raw = none) :
    ∃ reason, readBody schema policy raw = .error reason := by
  unfold bodyFields? at lacks
  unfold readBody
  cases value : bodyValue raw with
  | error e => exact ⟨_, rfl⟩
  | ok v =>
    rw [value] at lacks
    cases v with
    | object members => cases lacks
    | null | bool _ | number _ | string _ | array _ => exact ⟨_, rfl⟩

theorem exists_fields_of_readBody {c : Conversion} (parsed : readBody schema policy raw = .ok c) :
    ∃ fields, bodyFields? raw = some fields ∧ fields.convert schema policy = .ok c := by
  cases read : bodyFields? raw with
  | none =>
    obtain ⟨reason, rejected⟩ := readBody_of_no_fields schema policy read
    rw [rejected] at parsed
    cases parsed
  | some fields =>
    rw [readBody_of_fields read, except_mapError_eq_ok_iff] at parsed
    exact ⟨fields, rfl, parsed⟩

/-- What the parser hands on: the fields that the schema declares as the body, the others among the
extensions. -/
theorem pass_jsonBody_fields {s s' : RequestState} (passed : (jsonBody schema policy).pass s = some s') :
    ∃ fields, bodyFields? s.request.body = some fields ∧
      s' = (s.withBody (.structured (fields.fit schema).record)).withExtensions
        (fields.subtract schema) := by
  obtain ⟨c, parsed, rfl⟩ := pass_jsonBody.1 passed
  obtain ⟨fields, read, converted⟩ := exists_fields_of_readBody parsed
  obtain rfl := Record.eq_fit_of_convert converted
  exact ⟨fields, read, rfl⟩

theorem rejects_jsonBody_iff : (jsonBody schema policy).Rejects raw ↔
    bodyFields? raw = none ∨ policy = .strict ∧ ∃ fields, bodyFields? raw = some fields ∧
      ∃ name kind, schema.get? name = some kind ∧
        ∀ v, fields.get? name = some v → kind.coerce v = none := by
  show (∃ reason, readBody schema policy raw = .error reason) ↔ _
  cases read : bodyFields? raw with
  | none => exact iff_of_true (readBody_of_no_fields schema policy read) (Or.inl rfl)
  | some fields =>
    have rejected : (∃ reason, readBody schema policy raw = .error reason) ↔
        ∃ cause, fields.convert schema policy = .error cause := by
      rw [readBody_of_fields read]
      cases fields.convert schema policy <;> simp [Except.mapError]
    rw [rejected]
    cases policy with
    | lenient => simp [Record.convert]
    | strict => simp [Record.convert_strict_fails_iff]

end Layer

end RequestRouter
