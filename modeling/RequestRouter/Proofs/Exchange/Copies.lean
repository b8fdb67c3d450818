import RequestRouter.Proofs.Exchange.Course
import RequestRouter.Record.Basic

/-!
# Copies of a response under construction

The response to a request is often built in several places: a draft is copied, each copy is
changed on its own, and any of them may be sent. The copies share the exchange and nothing else.
A run over such a family is compared with what its steps say by themselves: the lineage of a copy
is the actions that made it what it is, and the first response offered is the only one that the
sink sees.
-/

namespace RequestRouter

namespace Draft

/-- A header that is set is found with its new value, and every other one as before. -/
theorem lookup_setHeader (name value : String) (headers : List (String × String))
    (wanted : String) : (setHeader name value headers).lookup wanted =
      if wanted = name then some value else headers.lookup wanted := by
  induction headers with
  | nil =>
    rw [setHeader, List.lookup_cons]
    grind
  | cons header rest ih =>
    obtain ⟨n, v⟩ := header
    rw [setHeader]
    by_cases here : n = name
    · rw [if_pos here, List.lookup_cons, List.lookup_cons]
      grind
    · rw [if_neg here, List.lookup_cons, List.lookup_cons, ih]
      grind

theorem lowerCase_contentType : Http.lowerCase contentType = contentType := by
  decide

theorem lookup_withContentType (d : Draft) (value wanted : String) :
    (d.withHeader contentType value).headers.lookup wanted =
      if wanted = contentType then some value else d.headers.lookup wanted := by
  rw [withHeader, lowerCase_contentType]
  exact lookup_setHeader contentType value d.headers wanted

end Draft

/-- What a copy sends: a response, or why its body has no text. -/
abbrev Offer := Except String Response

namespace Offer

/-- The answer to an offer, and the log after it: a body without text is not sent. -/
def send (sink : Sink) (l : Log) : Offer → Except ResponseError Unit × Log
  | .error reason => (.error (.notSerialized reason), l)
  | .ok r => l.send sink r

def first? (offers : List Offer) : Option Response :=
  offers.findSome? Except.toOption

/-- The answer to an offer, where `earlier` is the response that claimed the exchange before it:
the sink, which was offered `before`, answers the first response, and a later one is refused. -/
def answer (sink : Sink) (before : List Response) (earlier : Option Response) :
    Offer → Except ResponseError Unit
  | .error reason => .error (.notSerialized reason)
  | .ok r =>
    match earlier with
    | none => (sink before r).mapError .notWritten
    | some _ => .error .alreadySent

def answers (sink : Sink) (before : List Response) (earlier : Option Response) :
    List Offer → List (Except ResponseError Unit)
  | [] => []
  | o :: rest => o.answer sink before earlier :: answers sink before (earlier.or o.toOption) rest

end Offer

inductive CopyAction where
  | setStatus (status : Nat)
  | setHeader (name value : String)
  | send (body : String)
  | sendText (body : String)
  /-- Sends a value as JSON, unless there is a reason why it has no JSON text. -/
  | sendJson (value : Except String Json)
  | sendRecord (fields : Record)

namespace CopyAction

/-- The draft after the action. What is sent is a copy of it, so a sent draft stays as it is. -/
def edit : CopyAction → Draft → Draft
  | .setStatus status, d => d.withStatus status
  | .setHeader name value, d => d.withHeader name value
  | .send _, d => d
  | .sendText _, d => d
  | .sendJson _, d => d
  | .sendRecord _, d => d

def offer? : CopyAction → Draft → Option Offer
  | .setStatus _, _ => none
  | .setHeader _ _, _ => none
  | .send body, d => some (.ok (d.complete body))
  | .sendText body, d => some (.ok (d.completeText body))
  | .sendJson value, d => some (value.map d.completeJson)
  | .sendRecord fields, d => some (.ok (d.completeJson fields.toJson))

def body? : CopyAction → Option String
  | .send body => some body
  | .sendText body => some body
  | .sendJson (.ok value) => some value.text
  | .sendRecord fields => some fields.toJson.text
  | _ => none

def contentType? : CopyAction → Option String
  | .sendText _ => some "text/plain; charset=utf-8"
  | .sendJson _ => some "application/json"
  | .sendRecord _ => some "application/json"
  | _ => none

/-- A response that an action sends is its draft with the action's body and content type. -/
structure Completes (action : CopyAction) (d : Draft) (r : Response) : Prop where
  status_eq : r.status = d.status
  body_eq : action.body? = some r.body
  headers_eq : ∀ name, r.headers.lookup name =
    if name = Draft.contentType then action.contentType?.or (d.headers.lookup name)
    else d.headers.lookup name

theorem completes_of_offer {action : CopyAction} {d : Draft} {r : Response}
    (h : action.offer? d = some (.ok r)) : action.Completes d r := by
  cases action with
  | setStatus _ | setHeader _ _ => cases h
  | send body =>
    cases h
    exact ⟨rfl, rfl, fun _ => (ite_self _).symm⟩
  | sendText body =>
    cases h
    exact ⟨rfl, rfl, d.lookup_withContentType _⟩
  | sendJson value =>
    cases value with
    | error _ => cases h
    | ok value =>
      cases h
      exact ⟨rfl, rfl, d.lookup_withContentType _⟩
  | sendRecord fields =>
    cases h
    exact ⟨rfl, rfl, d.lookup_withContentType _⟩

/-- An action with a body sends a response, of any draft. -/
theorem exists_offer_of_body {action : CopyAction} {body : String}
    (h : action.body? = some body) (d : Draft) : ∃ r, action.offer? d = some (.ok r) := by
  cases action with
  | setStatus _ | setHeader _ _ => cases h
  | send body => exact ⟨d.complete body, rfl⟩
  | sendText body => exact ⟨d.completeText body, rfl⟩
  | sendJson value =>
    cases value with
    | error _ => cases h
    | ok value => exact ⟨d.completeJson value, rfl⟩
  | sendRecord fields => exact ⟨d.completeJson fields.toJson, rfl⟩

theorem offer_eq_error_iff {action : CopyAction} {d : Draft} {reason : String} :
    action.offer? d = some (.error reason) ↔ action = .sendJson (.error reason) := by
  constructor
  · intro h
    cases action with
    | setStatus _ | setHeader _ _ | send _ | sendText _ | sendRecord _ => cases h
    | sendJson value =>
      cases value with
      | error _ => cases h; rfl
      | ok _ => cases h
  · rintro rfl
    rfl

end CopyAction

/-- A step over a family of copies. A copy is known by its place in the order of their creation; a
step on a copy that does not exist does nothing. -/
inductive CopyStep where
  | copy (original : Nat)
  | act (place : Nat) (action : CopyAction)

namespace CopyStep

def edit (drafts : List Draft) : CopyStep → List Draft
  | .copy original => drafts ++ (drafts[original]?).toList
  | .act place action => drafts.modify place action.edit

def offer? (drafts : List Draft) : CopyStep → Option Offer
  | .copy _ => none
  | .act place action => (drafts[place]?).bind action.offer?

/-- The lineages after the step: a copy has its original's so far, and an action on one copy is
in no other lineage than its own. -/
def extend (lineages : List (List CopyAction)) : CopyStep → List (List CopyAction)
  | .copy original => lineages ++ (lineages[original]?).toList
  | .act place action => lineages.modify place (· ++ [action])

end CopyStep

/-- The copies of one fresh draft, and the exchange that they share. -/
structure Copies where
  drafts : List Draft
  log : Log
  /-- The answers to the sends so far. -/
  answers : List (Except ResponseError Unit)

namespace Copies

def fresh (l : Log) : Copies :=
  ⟨[.fresh], l.nextExchange, []⟩

def step (sink : Sink) (c : Copies) (s : CopyStep) : Copies :=
  match s.offer? c.drafts with
  | none => { c with drafts := s.edit c.drafts }
  | some offer =>
    let sent := offer.send sink c.log
    ⟨s.edit c.drafts, sent.2, c.answers ++ [sent.1]⟩

def run (sink : Sink) (l : Log) (steps : List CopyStep) : Copies :=
  steps.foldl (step sink) (fresh l)

/-- The lineage of every copy: the actions on its ancestors before each was copied, then its
own. -/
def lineages (steps : List CopyStep) : List (List CopyAction) :=
  steps.foldl CopyStep.extend [[]]

def draftOf (lineage : List CopyAction) : Draft :=
  lineage.foldl (fun d action => action.edit d) .fresh

/-- What the steps send if the lineages before them are `known`. -/
def offersFrom (known : List (List CopyAction)) : List CopyStep → List Offer
  | [] => []
  | s :: rest => (s.offer? (known.map draftOf)).toList ++ offersFrom (s.extend known) rest

/-- What the steps send, each from the lineage that its copy has at that moment. -/
def offers (steps : List CopyStep) : List Offer :=
  offersFrom [[]] steps

end Copies

namespace Offer

theorem first?_cons (o : Offer) (rest : List Offer) :
    first? (o :: rest) = o.toOption.or (first? rest) := by
  cases o <;> rfl

theorem first?_append (os rest : List Offer) :
    first? (os ++ rest) = (first? os).or (first? rest) :=
  List.findSome?_append

theorem first?_toList (o : Option Offer) : first? o.toList = o.bind Except.toOption := by
  cases o with
  | none => rfl
  | some o => cases o <;> rfl

/-- What the first response of the offers before it leaves to an offer. -/
theorem answers_append (sink : Sink) (before : List Response) (earlier : Option Response)
    (os rest : List Offer) :
    answers sink before earlier (os ++ rest) =
      answers sink before earlier os ++ answers sink before (earlier.or (first? os)) rest := by
  induction os generalizing earlier with
  | nil => rw [first?, List.findSome?_nil, Option.or_none]; rfl
  | cons o os ih => simp only [List.cons_append, answers, ih, first?_cons, Option.or_assoc]

/-- An offer is answered by what stands in the log, and claims the exchange if nothing did. -/
theorem send_answer {sink : Sink} {start l : Log} {earlier : Option Response}
    (h : Log.After sink start l earlier) (o : Offer) :
    (o.send sink l).1 = o.answer sink start.offered earlier ∧
      Log.After sink start (o.send sink l).2 (earlier.or o.toOption) := by
  cases o with
  | error reason => exact ⟨rfl, (Option.or_none (o := earlier)).symm ▸ h⟩
  | ok r =>
    cases earlier with
    | some first =>
      rw [send, Log.send_of_committed h.committed_eq]
      exact ⟨rfl, h⟩
    | none =>
      have free : l.Standing none start.offered start.delivered := h
      have answered := Log.send_answer_of_free free.committed_eq sink r
      have sent := Log.send_of_free free.committed_eq sink r
      rw [free.offered_eq] at answered
      simp only [Log.After, free.offered_eq, free.delivered_eq] at sent
      exact ⟨answered, sent⟩

end Offer

namespace CopyStep

/-- The drafts of the lineages take the step as the lineages do. -/
theorem edit_draftOf (lineages : List (List CopyAction)) (s : CopyStep) :
    s.edit (lineages.map Copies.draftOf) = (s.extend lineages).map Copies.draftOf := by
  cases s with
  | copy original =>
    simp only [edit, extend, List.getElem?_map, List.map_append, Option.toList_map]
  | act place action =>
    apply List.ext_getElem?
    intro n
    simp only [edit, extend, List.getElem?_modify, List.getElem?_map]
    cases lineages[n]? with
    | none => rfl
    | some lineage =>
      by_cases here : place = n
      · simp [here, Copies.draftOf]
      · simp [here]

end CopyStep

namespace Copies

/-- The family is what its lineages and the offers made so far say. -/
structure Reflects (sink : Sink) (start : Log) (c : Copies) (lineages : List (List CopyAction))
    (offers : List Offer) : Prop where
  drafts_eq : c.drafts = lineages.map draftOf
  answers_eq : c.answers = Offer.answers sink start.offered none offers
  log_after : Log.After sink start c.log (Offer.first? offers)

theorem reflects_fresh (sink : Sink) (l : Log) : (fresh l).Reflects sink l [[]] [] :=
  ⟨rfl, rfl, rfl, rfl, rfl⟩

theorem Reflects.step {sink : Sink} {start : Log} {c : Copies}
    {lineages : List (List CopyAction)} {offers : List Offer}
    (h : c.Reflects sink start lineages offers) (s : CopyStep) :
    (c.step sink s).Reflects sink start (s.extend lineages)
      (offers ++ (s.offer? (lineages.map draftOf)).toList) := by
  have edited : s.edit c.drafts = (s.extend lineages).map draftOf := by
    rw [h.drafts_eq, CopyStep.edit_draftOf]
  rw [Copies.step, ← h.drafts_eq]
  cases s.offer? c.drafts with
  | none =>
    rw [Option.toList_none, List.append_nil]
    exact ⟨edited, h.answers_eq, h.log_after⟩
  | some offer =>
    obtain ⟨answered, claimed⟩ := Offer.send_answer h.log_after offer
    refine ⟨edited, ?_, ?_⟩
    · rw [Option.toList_some, Offer.answers_append, ← h.answers_eq]
      exact congrArg (c.answers ++ [·]) answered
    · rw [Offer.first?_append, Offer.first?_toList]
      exact claimed

theorem Reflects.steps {sink : Sink} {start : Log} (steps : List CopyStep) {c : Copies}
    {lineages : List (List CopyAction)} {offers : List Offer}
    (h : c.Reflects sink start lineages offers) :
    (steps.foldl (Copies.step sink) c).Reflects sink start (steps.foldl CopyStep.extend lineages)
      (offers ++ offersFrom lineages steps) := by
  induction steps generalizing c lineages offers with
  | nil =>
    rw [offersFrom, List.append_nil]
    exact h
  | cons s rest ih =>
    rw [offersFrom, ← List.append_assoc]
    exact ih (h.step s)

/-- The copies of a response share the exchange and nothing else. The first response that any of
them sends claims the exchange with its status, and it is all that the sink sees, whether the sink
takes it or not; until then nothing has claimed it, and afterwards every response is refused
before it reaches the sink. What is sent, and the drafts at the end, follow from the lineages:
neither the other copies nor the sink have a part in them. A response is the draft of its copy,
completed by the action that sends it; every action with a body sends one, and a value that has no
JSON text is all that can keep an action from it. -/
theorem run_commits_once (sink : Sink) (l : Log) (steps : List CopyStep) :
    let copies := run sink l steps
    let first := Offer.first? (offers steps)
    copies.log.committed = first.map Response.status ∧
      copies.log.offered = l.offered ++ first.toList ∧
      copies.log.delivered = l.delivered ++ (first.filter (sink.takes l.offered)).toList ∧
      copies.answers = Offer.answers sink l.offered none (offers steps) ∧
      copies.drafts = (lineages steps).map draftOf ∧
      (∀ (action : CopyAction) d r, action.offer? d = some (.ok r) → action.Completes d r) ∧
      (∀ (action : CopyAction) d body, action.body? = some body →
        ∃ r, action.offer? d = some (.ok r)) ∧
      ∀ (action : CopyAction) d reason,
        action.offer? d = some (.error reason) ↔ action = .sendJson (.error reason) := by
  have reflects := (reflects_fresh sink l).steps steps
  exact ⟨reflects.log_after.committed_eq, reflects.log_after.offered_eq,
    reflects.log_after.delivered_eq, reflects.answers_eq, reflects.drafts_eq,
    fun _ _ _ => CopyAction.completes_of_offer,
    fun _ d _ sends => CopyAction.exists_offer_of_body sends d,
    fun _ _ _ => CopyAction.offer_eq_error_iff⟩

/-- A copy is sent as text before its original, which a later change of the copy leaves alone. -/
example :
    let copies := run Sink.memory {}
      [.act 0 (.setStatus 404), .copy 0, .act 1 (.setHeader "X-Source" "copy"),
        .act 1 (.sendText "gone"), .act 0 (.send "late"), .act 1 (.setStatus 500)]
    copies.log.committed = some 404 ∧
      copies.log.delivered =
        [⟨404, [("content-type", "text/plain; charset=utf-8"), ("x-source", "copy")], "gone"⟩] ∧
      copies.answers = [.ok (), .error .alreadySent] ∧
      copies.drafts = [⟨404, [("content-type", "text/html")]⟩,
        ⟨500, [("content-type", "text/html"), ("x-source", "copy")]⟩] := by
  refine ⟨rfl, ?_, rfl, ?_⟩ <;> decide

end Copies

end RequestRouter
