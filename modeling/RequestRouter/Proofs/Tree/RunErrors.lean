import RequestRouter.Proofs.Tree.FaultBoundary
import RequestRouter.Proofs.Tree.Sites

/-!
# Errors of building and errors of running

What is wrong at a site of a tree is an error of construction. What a tree of standard layers ends
with when it runs never is one, whatever its handlers and the sink do: a node makes an error of its
own only where it does not match, where the parameters do not convert and where a response is not
taken, and it wraps what a handler returns or crashes with.
-/

namespace RequestRouter

namespace Course

variable {α β : Type} {P : α → Prop} {Q : β → Prop}

/-- The course ends with a value of `P` if it does not crash, in every exchange. -/
def EndsIn (c : Course Event α) (P : α → Prop) : Prop :=
  ∀ sink l a, (c.run sink l).1 = .ok a → P a

theorem done_endsIn {a : α} (h : P a) : (done a : Course Event α).EndsIn P := by
  intro sink l b ended
  cases ended
  exact h

theorem send_endsIn {r : Response} {next : Except ResponseError Unit → Course Event α}
    (after : ∀ answer, (next answer).EndsIn P) : (send r next).EndsIn P :=
  fun sink l => after (l.send sink r).1 sink (l.send sink r).2

theorem note_endsIn (event : Event) {c : Course Event α} (after : c.EndsIn P) :
    (note event c).EndsIn P :=
  fun sink l => after sink (l.record event)

theorem EndsIn.bind {c : Course Event α} (h : c.EndsIn P) {f : α → Course Event β}
    (after : ∀ a, P a → (f a).EndsIn Q) : (c.bind f).EndsIn Q := by
  intro sink l b ended
  rw [run_bind] at ended
  cases ran : c.run sink l with
  | mk value l' =>
    rw [ran] at ended
    cases value with
    | error crash => cases ended
    | ok a => exact after a (h sink l a (by rw [ran])) sink l' b ended

end Course

def PastConstruction (result : Except RouteError Bool) : Prop :=
  ∀ e, result = .error e → e.isConstruction = false

theorem pastConstruction_ok (handled : Bool) : PastConstruction (.ok handled) := by
  intro e failed
  cases failed

theorem pastConstruction_error {e : RouteError} (h : e.isConstruction = false) :
    PastConstruction (.error e) := by
  intro e' failed
  cases failed
  exact h

/-- A crash counts as an error of the run. -/
theorem pastConstruction_outcomeOf {result : Except Crash (Except RouteError Bool)}
    (h : ∀ value, result = .ok value → PastConstruction value) :
    PastConstruction (Layer.outcomeOf result) := by
  cases result with
  | error crash => exact pastConstruction_error rfl
  | ok value => exact h value rfl

theorem answer_pastConstruction (r : Response) : (answer r).EndsIn PastConstruction := by
  refine Course.send_endsIn fun reply => ?_
  cases reply with
  | ok _ => exact Course.done_endsIn (pastConstruction_ok true)
  | error cause => exact Course.done_endsIn (pastConstruction_error rfl)

/-- The handler's error is wrapped, so it does not matter which one it is. -/
theorem Endpoint.invoke_pastConstruction (e : Endpoint) (s : RequestState) (draft : Draft) :
    (e.invoke s draft).EndsIn PastConstruction := by
  unfold invoke
  split
  · exact Course.done_endsIn (pastConstruction_error rfl)
  · rename_i prepared _
    have handlerEnds : ((e.handler prepared draft).lift : Course Event _).EndsIn fun _ => True :=
      fun _ _ _ _ => trivial
    refine Course.note_endsIn _ (handlerEnds.bind fun result _ => ?_)
    cases result with
    | ok _ => exact Course.done_endsIn (pastConstruction_ok true)
    | error cause => exact Course.done_endsIn (pastConstruction_error rfl)

/-- A standard layer makes no error of construction of its node's results. -/
theorem Layer.call_pastConstruction {l : Layer} (standard : l.Standard) {next : Next}
    (below : ∀ s draft, (next.run s draft).EndsIn PastConstruction) (s : RequestState)
    (draft : Draft) : (l.call next s draft).EndsIn PastConstruction := by
  cases l with
  | notFound =>
    show (runNotFound next s draft).EndsIn PastConstruction
    unfold runNotFound
    split
    · exact below s draft
    · exact answer_pastConstruction _
  | serverFault =>
    intro sink log result ended
    obtain ⟨handled, contained⟩ := (serverFault_contains next s draft sink log).1
    cases ended.symm.trans contained
    exact pastConstruction_ok handled
  | profile | tracing => exact below s draft
  | metrics meter =>
    exact (below s draft).bind fun result past =>
      Course.note_endsIn _ (Course.done_endsIn past)
  | jsonBody schema policy =>
    show (runJsonBody schema policy next s draft).EndsIn PastConstruction
    unfold runJsonBody
    split
    · exact below _ draft
    · exact answer_pastConstruction _
  | cookies schema => exact below _ draft
  | custom stage => exact standard.elim

namespace RouteTree

theorem unmatched_pastConstruction (s : RequestState) :
    (unmatched s).EndsIn PastConstruction :=
  Course.done_endsIn (pastConstruction_error rfl)

/-- Of a tree of standard layers no run ends in an error of construction. The tree need not be
checked before: a pattern that does not compile does not match. -/
theorem invoke_pastConstruction {t : RouteTree} (standard : t.Standard) (s : RequestState)
    (draft : Draft) : (t.invoke s draft).EndsIn PastConstruction := by
  induction t using RouteTree.induct generalizing s draft with
  | endpoint e =>
    rw [invoke]
    exact e.invoke_pastConstruction s draft
  | bind pattern nested ih =>
    rw [invoke]
    cases bindPattern pattern s with
    | some s' => exact ih standard s' draft
    | none => exact unmatched_pastConstruction s
  | group members ih =>
    rw [invoke, invokeFirst_eq_find]
    cases found : members.find? fun t => accepts t s.method s.remaining.toList with
    | some t =>
      have listed : t ∈ members := List.mem_of_find?_eq_some found
      exact ih t listed (everywhereIn_iff.1 standard t listed) s draft
    | none => exact unmatched_pastConstruction s
  | null =>
    rw [invoke]
    exact Course.done_endsIn (pastConstruction_ok false)
  | layer l nested ih =>
    rw [invoke]
    exact Layer.call_pastConstruction standard.1 (ih standard.2) s draft

end RouteTree

/-- Whatever is wrong at a site of a tree is an error of its construction. -/
theorem Site.Fault.isConstruction {site : Site} {e : RouteError} (wrong : site.Fault e) :
    e.isConstruction = true := by
  cases wrong with
  | pattern fails => rfl
  | endpoint wrong => cases wrong <;> rfl

end RequestRouter
