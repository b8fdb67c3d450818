import RequestRouter.Proofs.Request.Id
import RequestRouter.Proofs.Router.OneResponse

/-!
# The id of an exchange

An exchange runs under the id that its request carries, if there is one in the header of the
settings. It is reported with the text that the client sent, in capitals, unless that text has bits
that no id has room for.
-/

namespace RequestRouter.Router

theorem requestId_of_header {settings : Settings} {request : Request} {value : String}
    {id : RequestId} (carried : request.header? settings.requestIdHeader = some value)
    (read : RequestId.parse (trimText value) = .ok id) (fresh : RequestId) :
    requestId settings fresh request = id := by
  simp only [requestId, RequestId.ofHeaderOr, carried, Option.map_some, read]

/-- Ids and their texts. The text of an id has 26 digits and is read as this id, also from JSON.
Besides it three more texts are read as the id, up to letter case: those whose first digit is worth
8, 16 or 24 more. For all others the text of what was read is the text itself in capitals, so that
two of them are one id only if they differ in letter case alone. An exchange whose request carries a
text that is read as an id reports this id: with the text sent, in capitals, unless it is one of
those three. -/
theorem serve_reports_id (r : Router) (sink : Sink) (fresh : RequestId) (request : Request)
    (log : Log) :
    (∀ id : RequestId, id.text.toList.length = 26 ∧ RequestId.parse id.text = .ok id ∧
      RequestId.ofJson (.string id.text) = .ok id) ∧
    (∀ s id, RequestId.parse s = .ok id ↔ ∃ d excess rest, d < 8 ∧ excess < 4 ∧
      id.text.toList = RequestId.digitChar d :: rest ∧
      (RequestId.upperCase s).toList = RequestId.digitChar (d + 8 * excess) :: rest) ∧
    (∀ s id, RequestId.parse s = .ok id → (id.text = RequestId.upperCase s ↔ RequestId.Fits s)) ∧
    (∀ s s' id, RequestId.parse s = .ok id → RequestId.parse s' = .ok id →
      RequestId.Fits s → RequestId.Fits s' → RequestId.upperCase s = RequestId.upperCase s') ∧
    ∀ value id, request.header? r.settings.requestIdHeader = some value →
      RequestId.parse (trimText value) = .ok id →
      ∃ outcome after, r.serve sink fresh request log = (.ok outcome, after) ∧ outcome.id = id ∧
        (outcome.id.text = RequestId.upperCase (trimText value) ↔ RequestId.Fits (trimText value)) := by
  refine ⟨fun id => ⟨id.length_text, id.parse_text, ?_⟩, fun s id => RequestId.parse_eq_ok_iff,
    fun s id => RequestId.text_eq_upperCase_iff, fun s s' id => RequestId.upperCase_eq_of_parse, ?_⟩
  · exact RequestId.ofJson_string_eq_ok_iff.2 id.parse_text
  · intro value id carried read
    obtain ⟨outcome, ended, reported, -⟩ := serve_spec r sink fresh request log
    rw [requestId_of_header carried read] at reported
    refine ⟨outcome, _, Prod.ext ended rfl, reported, ?_⟩
    rw [reported]
    exact RequestId.text_eq_upperCase_iff read

def idleRouter : Router :=
  ⟨.null, {}, []⟩

def requestWithId (value : String) : Request :=
  ⟨.get, "/a", [⟨"x-request-id", value⟩], []⟩

/-- Two texts of one id. The header has blanks around the one in mixed case. -/
theorem serve_reports_id_mixed_case :
    let sent := "01arz3NDEKTSV4RRFFQ69G5FAV"
    let own := "01ARZ3NDEKTSV4RRFFQ69G5FAV"
    let id := RequestId.ofNat 1777027686520646174104517696511196507
    let request := requestWithId " 01arz3NDEKTSV4RRFFQ69G5FAV\t"
    RequestId.parse sent = .ok id ∧ RequestId.parse own = .ok id ∧
      RequestId.Fits sent ∧ RequestId.Fits own ∧
      RequestId.upperCase sent = RequestId.upperCase own ∧
      ∃ value outcome after, request.header? idleRouter.settings.requestIdHeader = some value ∧
        trimText value = sent ∧
        idleRouter.serve .closed default request {} = (.ok outcome, after) ∧
        outcome.id = id ∧ outcome.id.text = own := by
  intro sent own id request
  have read : RequestId.parse sent = .ok id := by decide
  have readOwn : RequestId.parse own = .ok id := by decide
  have fits : RequestId.Fits sent := ⟨'0', by decide, by decide⟩
  have fitsOwn : RequestId.Fits own := ⟨'0', by decide, by decide⟩
  have carried : request.header? idleRouter.settings.requestIdHeader =
      some " 01arz3NDEKTSV4RRFFQ69G5FAV\t" := rfl
  have trimmed : trimText " 01arz3NDEKTSV4RRFFQ69G5FAV\t" = sent := by decide
  have capitals : RequestId.upperCase sent = own := by decide
  obtain ⟨-, -, -, unique, reports⟩ := serve_reports_id idleRouter .closed default request {}
  obtain ⟨outcome, after, served, reported, same⟩ := reports _ id carried (trimmed ▸ read)
  rw [trimmed, capitals] at same
  exact ⟨read, readOwn, fits, fitsOwn, unique sent own id read readOwn fits fitsOwn,
    _, outcome, after, carried, trimmed, served, reported, same.2 fits⟩

/-- The first digit is worth 8. The text is read as the id that has the digit 0 in its place, and
this is the id that the exchange reports. -/
theorem excess_bits_dropped :
    let sent := "8ZZZZZZZZZZZZZZZZZZZZZZZZZ"
    let other := "0ZZZZZZZZZZZZZZZZZZZZZZZZZ"
    let id := RequestId.ofNat 42535295865117307932921825928971026431
    RequestId.parse sent = .ok id ∧ RequestId.parse other = .ok id ∧ id.text = other ∧
      id.text ≠ RequestId.upperCase sent ∧
      ∃ outcome after,
        idleRouter.serve .memory default (requestWithId sent) {} = (.ok outcome, after) ∧
        outcome.id.text = other :=
  ⟨by decide, by decide, by decide, by decide, _, _, rfl, by decide⟩

end RequestRouter.Router
