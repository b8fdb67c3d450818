import RequestRouter.Proofs.Exchange.Course
import RequestRouter.Proofs.Tree.Shape

/-!
# Courses that ignore the meters

Meters are the only thing that one exchange leaves to the next. What a course that ignores them
offers does not depend on the log it starts from, and neither does its value, as long as the sink
answers alike.
-/

namespace RequestRouter

/-- A sink whose answer does not depend on what it was offered before. -/
def Sink.Steady (sink : Sink) : Prop :=
  ∀ before before' r, sink before r = sink before' r

def Sink.TakesAll (sink : Sink) : Prop :=
  ∀ before r, sink before r = .ok ()

theorem Sink.TakesAll.takes {sink : Sink} (h : sink.TakesAll) (before : List Response)
    (r : Response) : sink.takes before r = true := by
  rw [Sink.takes, h before r]
  rfl

theorem Sink.Steady.takes {sink : Sink} (h : sink.Steady) (before before' : List Response)
    (r : Response) : sink.takes before r = sink.takes before' r := by
  rw [Sink.takes, Sink.takes, h before before' r]

namespace Course

variable {ε α β : Type}

/-- Whatever a meter shows, the course goes on alike. -/
def IgnoresMeters : Course ε α → Prop
  | .done _ => True
  | .crash _ => True
  | .send _ next => ∀ answer, IgnoresMeters (next answer)
  | .committed next => ∀ status, IgnoresMeters (next status)
  | .readMeter _ next => (∀ a b, next a = next b) ∧ ∀ counts, IgnoresMeters (next counts)
  | .note _ next => IgnoresMeters next

namespace IgnoresMeters

theorem bind {c : Course ε α} (h : c.IgnoresMeters) {f : α → Course ε β}
    (after : ∀ a, (f a).IgnoresMeters) : (c.bind f).IgnoresMeters := by
  induction c with
  | done a => exact after a
  | crash e => trivial
  | send r next ih => exact fun answer => ih answer (h answer)
  | committed next ih => exact fun status => ih status (h status)
  | readMeter meter next ih =>
    exact ⟨fun a b => congrArg (fun c => c.bind f) (h.1 a b), fun counts => ih counts (h.2 counts)⟩
  | note event next ih => exact ih h

theorem attempt {c : Course ε α} (h : c.IgnoresMeters) : c.attempt.IgnoresMeters := by
  induction c with
  | done a => trivial
  | crash e => trivial
  | send r next ih => exact fun answer => ih answer (h answer)
  | committed next ih => exact fun status => ih status (h status)
  | readMeter meter next ih =>
    exact ⟨fun a b => congrArg Course.attempt (h.1 a b), fun counts => ih counts (h.2 counts)⟩
  | note event next ih => exact ih h

theorem lift {act : Act α} (h : act.IgnoresMeters) :
    (act.lift : Course ε α).IgnoresMeters := by
  induction act with
  | done a => trivial
  | crash e => trivial
  | send r next ih => exact fun answer => ih answer (h answer)
  | committed next ih => exact fun status => ih status (h status)
  | readMeter meter next ih =>
    exact ⟨fun a b => congrArg Act.lift (h.1 a b), fun counts => ih counts (h.2 counts)⟩
  | note event next ih => exact event.elim

/-- The first offer is the same from every log. -/
theorem firstOffer_eq {c : Course Event α} (h : c.IgnoresMeters) (l l' : Log) :
    c.firstOffer l = c.firstOffer l' := by
  induction c generalizing l l' with
  | done a => rfl
  | crash e => rfl
  | send r next ih => rfl
  | committed next ih => exact ih none (h none) l l'
  | readMeter meter next ih =>
    rw [firstOffer, firstOffer, h.1 (l.counts meter) (l'.counts meter)]
    exact ih _ (h.2 _) l l'
  | note event next ih => exact ih h _ _

end IgnoresMeters

end Course

theorem Log.send_congr {sink : Sink} (steady : sink.Steady) (r : Response) {l l' : Log}
    (same : l.committed = l'.committed) :
    (l.send sink r).1 = (l'.send sink r).1 ∧
      (l.send sink r).2.committed = (l'.send sink r).2.committed := by
  rw [Log.send, Log.send, ← same, steady l.offered l'.offered r]
  cases claimed : l.committed with
  | some status => exact ⟨rfl, claimed.trans (claimed.symm.trans same)⟩
  | none => cases sink l'.offered r <;> exact ⟨rfl, rfl⟩

/-- Against a steady sink the value depends on the claim on the exchange only. -/
theorem Course.IgnoresMeters.run_value {α : Type} {sink : Sink} (steady : sink.Steady)
    {c : Course Event α} (h : c.IgnoresMeters) {l l' : Log} (same : l.committed = l'.committed) :
    (c.run sink l).1 = (c.run sink l').1 := by
  induction c generalizing l l' with
  | done a => rfl
  | crash e => rfl
  | send r next ih =>
    obtain ⟨answer, claimed⟩ := Log.send_congr steady r same
    have below := ih (l.send sink r).1 (h _) claimed
    simpa only [Course.run, answer] using below
  | committed next ih =>
    rw [Course.run, Course.run, same]
    exact ih _ (h _) same
  | readMeter meter next ih =>
    rw [Course.run, Course.run, h.1 (l.counts meter) (l'.counts meter)]
    exact ih _ (h.2 _) same
  | note event next ih =>
    refine ih h ?_
    rw [Log.committed_record, Log.committed_record, same]

/-- A stage that ignores the meters around every node that does. -/
def Stage.IgnoresMeters (stage : Stage) : Prop :=
  ∀ next : Next, (∀ s draft, (next.run s draft).IgnoresMeters) →
    ∀ s draft, (stage next s draft).IgnoresMeters

/-- Only a layer with a stage of its own can read a meter. -/
def Layer.IgnoresMeters : Layer → Prop
  | .custom stage => stage.IgnoresMeters
  | _ => True

theorem answer_ignoresMeters (r : Response) : (answer r).IgnoresMeters := by
  intro reply
  cases reply <;> trivial

namespace Layer

theorem sendFault_ignoresMeters (draft : Draft) : (sendFault draft).IgnoresMeters := by
  intro status
  cases status with
  | some _ => trivial
  | none => exact fun _ => trivial

theorem call_ignoresMeters {l : Layer} (h : l.IgnoresMeters) : l.call.IgnoresMeters := by
  intro next below s draft
  cases l with
  | notFound =>
    show (runNotFound next s draft).IgnoresMeters
    unfold runNotFound
    split
    · exact below s draft
    · exact answer_ignoresMeters _
  | serverFault =>
    refine (below s draft).attempt.bind fun result => ?_
    cases outcomeOf result with
    | ok handled => trivial
    | error e => exact (sendFault_ignoresMeters draft).bind fun _ => trivial
  | profile => exact below s draft
  | tracing => exact below s draft
  | metrics meter => exact (below s draft).bind fun _ => trivial
  | jsonBody schema policy =>
    show (runJsonBody schema policy next s draft).IgnoresMeters
    unfold runJsonBody
    split
    · exact below _ draft
    · exact answer_ignoresMeters _
  | cookies schema => exact below _ draft
  | custom stage => exact h next below s draft

end Layer

/-- Neither the handlers of the tree nor its stages depend on a meter. -/
def RouteTree.IgnoresMeters : RouteTree → Prop :=
  RouteTree.Everywhere (fun e => ∀ s draft, (e.handler s draft).IgnoresMeters) Layer.IgnoresMeters

theorem Endpoint.invoke_ignoresMeters {e : Endpoint}
    (h : ∀ s draft, (e.handler s draft).IgnoresMeters) (s : RequestState) (draft : Draft) :
    (e.invoke s draft).IgnoresMeters := by
  unfold Endpoint.invoke
  split
  · trivial
  · rename_i prepared _
    refine (h prepared draft).lift.bind fun result => ?_
    cases result <;> trivial

theorem RouteTree.invoke_ignoresMeters {t : RouteTree} (h : t.IgnoresMeters) (s : RequestState)
    (draft : Draft) : (t.invoke s draft).IgnoresMeters := by
  induction t using RouteTree.induct generalizing s draft with
  | endpoint e => exact Endpoint.invoke_ignoresMeters h s draft
  | bind pattern nested ih =>
    rw [invoke]
    split
    · exact ih h _ draft
    · trivial
  | group members ih =>
    have each := everywhereIn_iff.1 h
    rw [invoke, invokeFirst_eq_find]
    cases found : members.find? fun t => accepts t s.method s.remaining.toList with
    | none => trivial
    | some t =>
      have listed := List.mem_of_find?_eq_some found
      exact ih t listed (each t listed) s draft
  | null => trivial
  | layer l nested ih =>
    exact Layer.call_ignoresMeters h.1 _ (fun s draft => ih h.2 s draft) s draft

end RequestRouter
