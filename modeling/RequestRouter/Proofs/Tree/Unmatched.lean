import RequestRouter.Proofs.Tree.FaultBoundary
import RequestRouter.Proofs.Tree.Selection

/-!
# Unmatched requests

A tree answers requests that it does not accept if one of the layers at its top answers 404. What
stands below the outermost such layer is not asked, and what stands above it hands the answer on,
except for a body parser that rejects the body and answers by itself.
-/

namespace RequestRouter

/-- Against any sink that takes the response, in an exchange that nothing has claimed, the course
sends this response and no other one, and the request counts as handled. -/
def Course.Answers (c : Handled) (r : Response) : Prop :=
  ∀ sink l, l.committed = none → sink.takes l.offered r = true →
    (c.run sink l).1 = .ok (.ok true) ∧
      (c.run sink l).2.Standing (some r.status) (l.offered ++ [r]) (l.delivered ++ [r])

theorem answer_answers (r : Response) : (answer r).Answers r := by
  intro sink l free taken
  have offered : ((Act.offer r : Course Event _).run sink l).1 = .ok (.ok ()) := by
    show Except.ok (l.send sink r).1 = _
    rw [Log.send_answer_of_free free, Sink.ok_of_takes taken]
    rfl
  have ran : (answer r).run sink l = (.ok (.ok true), (l.send sink r).2) :=
    Course.run_bind_of_ok offered _
  have claimed : (l.send sink r).2.Standing _ _ _ := Log.send_of_free free sink r
  rw [if_pos taken] at claimed
  rw [ran]
  exact ⟨rfl, claimed⟩

namespace Layer

def objection (body : List UInt8) : Layer → Option String
  | .jsonBody schema policy =>
    match readBody schema policy body with
    | .ok _ => none
    | .error reason => some reason
  | _ => none

theorem objection_eq_some_iff {l : Layer} {body : List UInt8} {reason : String} :
    l.objection body = some reason ↔
      ∃ schema policy, l = .jsonBody schema policy ∧
        readBody schema policy body = .error reason := by
  cases l with
  | jsonBody schema policy => cases parsed : readBody schema policy body <;> simp [objection, parsed]
  | cookies _ | notFound | serverFault | profile | tracing | metrics _ | custom _ =>
    simp [objection]

theorem objection_eq_none_iff {l : Layer} {body : List UInt8} :
    l.objection body = none ↔ ¬ l.Rejects body := by
  cases l with
  | jsonBody schema policy =>
    cases parsed : readBody schema policy body <;> simp [objection, Rejects, parsed]
  | cookies _ | notFound | serverFault | profile | tracing | metrics _ | custom _ =>
    simp [objection, Rejects]

/-- The response to a request that is turned away below these layers: the first of them that
rejects the body says why; if none does, it is a 404. -/
def refusal (above : List Layer) (request : Request) (draft : Draft) : Response :=
  match above.findSome? (objection request.body) with
  | some reason => (draft.withStatus 400).completeText reason
  | none => (draft.withStatus 404).complete ("Not found: " ++ request.path)

section Refusal

variable {l : Layer} {above outer inner : List Layer} {request : Request} {reason : String}

theorem refusal_cons_of_objection (h : l.objection request.body = some reason) (draft : Draft) :
    refusal (l :: above) request draft = (draft.withStatus 400).completeText reason := by
  rw [refusal, List.findSome?_cons_of_isSome (by rw [h]; rfl), h]

theorem refusal_cons_of_no_objection (h : l.objection request.body = none) (draft : Draft) :
    refusal (l :: above) request draft = refusal above request draft := by
  rw [refusal, List.findSome?_cons_of_isNone (by rw [h]; rfl), refusal]

theorem refusal_append (accepted : ∀ l ∈ outer, ¬ l.Rejects request.body) (draft : Draft) :
    refusal (outer ++ inner) request draft = refusal inner request draft := by
  have quiet : outer.findSome? (objection request.body) = none :=
    List.findSome?_eq_none_iff.2 fun l listed => objection_eq_none_iff.2 (accepted l listed)
  rw [refusal, List.findSome?_append, quiet, Option.none_or, refusal]

theorem refusal_of_accepted (accepted : ∀ l ∈ outer, ¬ l.Rejects request.body) (draft : Draft) :
    refusal outer request draft =
      (draft.withStatus 404).complete ("Not found: " ++ request.path) := by
  rw [← List.append_nil outer, refusal_append accepted]
  rfl

end Refusal

variable {l : Layer} {next : Next} {s s' : RequestState} {draft : Draft} {r : Response}

theorem call_of_objection {reason : String} (h : l.objection s.request.body = some reason) :
    l.call next s draft = answer ((draft.withStatus 400).completeText reason) := by
  obtain ⟨schema, policy, rfl, parsed⟩ := objection_eq_some_iff.1 h
  show runJsonBody schema policy next s draft = _
  rw [runJsonBody, parsed]

theorem call_jsonBody_of_pass {schema : Schema} {policy : ConversionPolicy}
    (passed : (jsonBody schema policy).pass s = some s') :
    (jsonBody schema policy).call next s draft = next.run s' draft := by
  obtain ⟨c, parsed, rfl⟩ := pass_jsonBody.1 passed
  show runJsonBody schema policy next s draft = _
  rw [runJsonBody, parsed]

/-- A layer that hands the request on hands the answer back. -/
theorem call_answers (standard : l.Standard) (notHere : l ≠ .notFound) (passed : l.pass s = some s')
    (below : (next.run s' draft).Answers r) : (l.call next s draft).Answers r := by
  intro sink log free taken
  cases l with
  | notFound => exact absurd rfl notHere
  | serverFault =>
    cases passed
    rw [serverFault_run_of_handled (below sink log free taken).1]
    exact below sink log free taken
  | profile | tracing =>
    cases passed
    exact below sink log free taken
  | metrics meter =>
    cases passed
    obtain ⟨ended, standing⟩ := below sink log free taken
    have counted : ((metrics meter).call next s draft).run sink log =
        (.ok (.ok true), ((next.run s draft).run sink log).2.record (.counted meter .handled)) :=
      Course.run_bind_of_ok ended _
    rw [counted]
    exact ⟨rfl, standing.record (.counted meter .handled)⟩
  | jsonBody schema policy =>
    rw [call_jsonBody_of_pass passed]
    exact below sink log free taken
  | cookies schema =>
    cases passed
    exact below sink log free taken
  | custom stage => exact standard.elim

end Layer

namespace RouteTree

/-- The layers at the top of the tree, from the outermost on. -/
def stack : RouteTree → List Layer
  | .layer l nested => l :: nested.stack
  | _ => []

theorem stack_foldr (layers : List Layer) (t : RouteTree) :
    (layers.foldr layer t).stack = layers ++ t.stack := by
  induction layers with
  | nil => rfl
  | cons l layers ih => rw [List.foldr_cons, stack, ih, List.cons_append]

theorem accepts_foldr (layers : List Layer) (t : RouteTree) :
    (layers.foldr layer t).accepts = t.accepts := by
  induction layers with
  | nil => rfl
  | cons l layers ih =>
    funext method path
    rw [List.foldr_cons, accepts, ih]

theorem exists_of_stack_cons {t : RouteTree} {l : Layer} {inner : List Layer}
    (h : t.stack = l :: inner) : ∃ nested, t = .layer l nested ∧ nested.stack = inner := by
  cases t with
  | layer own nested =>
    obtain ⟨rfl, rest⟩ := List.cons.inj h
    exact ⟨nested, rfl, rest⟩
  | endpoint _ | bind _ _ | group _ | null => cases h

/-- The tree answers requests that it does not accept exactly if one of the layers at its top
does. -/
theorem answersUnmatched_iff {t : RouteTree} : t.answersUnmatched = true ↔ .notFound ∈ t.stack := by
  induction t using RouteTree.induct with
  | endpoint _ | bind _ _ _ | group _ _ | null => simp [answersUnmatched, stack]
  | layer l nested ih =>
    rw [answersUnmatched, Bool.or_eq_true, ih, stack, List.mem_cons]
    refine or_congr_left ⟨fun here => (Layer.eq_notFound_of_answersUnmatched here).symm, ?_⟩
    rintro rfl
    rfl

variable {above below : List Layer} {t : RouteTree} {s : RequestState}

/-- With standard layers above its outermost 404, a tree answers what it does not accept. -/
theorem invoke_answers (stack : t.stack = above ++ .notFound :: below)
    (outermost : .notFound ∉ above) (standard : ∀ l ∈ above, l.Standard)
    (refused : t.accepts s.method s.remaining.toList = false) (draft : Draft) :
    (t.invoke s draft).Answers (Layer.refusal above s.request draft) := by
  induction above generalizing t s with
  | nil =>
    obtain ⟨nested, rfl, -⟩ := exists_of_stack_cons stack
    rw [invoke, Layer.call_notFound_of_refuses (Bool.eq_false_iff.1 refused)]
    exact answer_answers _
  | cons l above ih =>
    obtain ⟨nested, rfl, rest⟩ := exists_of_stack_cons stack
    obtain ⟨here, deeper⟩ := List.forall_mem_cons.1 standard
    rw [List.mem_cons, not_or] at outermost
    rw [invoke]
    cases objects : l.objection s.request.body with
    | some reason =>
      rw [Layer.call_of_objection objects, Layer.refusal_cons_of_objection objects]
      exact answer_answers _
    | none =>
      obtain ⟨s', passed⟩ := Layer.exists_pass (Layer.objection_eq_none_iff.1 objects)
      obtain ⟨request, -⟩ := Layer.pass_frame passed
      rw [Layer.refusal_cons_of_no_objection objects, ← request]
      refine Layer.call_answers here (Ne.symm outermost.1) passed ?_
      exact ih rest outermost.2 deeper ((accepts_of_pass passed nested).trans refused)

/-- No node of such a tree is invoked with a request that it does not accept: what such a node would
do makes no difference. -/
theorem invokeOr_of_refused (stack : t.stack = above ++ .notFound :: below)
    (standard : ∀ l ∈ above, l.Standard)
    (refused : t.accepts s.method s.remaining.toList = false) (miss : RequestState → Handled)
    (draft : Draft) : t.invokeOr miss s draft = t.invoke s draft := by
  induction above generalizing t s with
  | nil =>
    obtain ⟨nested, rfl, -⟩ := exists_of_stack_cons stack
    have turnedAway := Bool.eq_false_iff.1 refused
    rw [invokeOr, invoke, Layer.call_notFound_of_refuses turnedAway,
      Layer.call_notFound_of_refuses turnedAway]
  | cons l above ih =>
    obtain ⟨nested, rfl, rest⟩ := exists_of_stack_cons stack
    obtain ⟨here, deeper⟩ := List.forall_mem_cons.1 standard
    rw [invokeOr, invoke]
    refine Layer.call_congr here rfl fun s' passed => ?_
    exact ih rest deeper ((accepts_of_pass passed nested).trans refused)

end RouteTree

end RequestRouter
