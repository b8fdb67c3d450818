import RequestRouter.Exchange.Basic

/-!
# Runs of courses

What a run of a composed course is, from the runs of its parts, and what a run does to the
exchange: the first response that the course offers claims it, and no other one reaches the sink.
Which handlers a course enters is known from its parts as well.
-/

namespace RequestRouter

namespace Course

variable {ε α β : Type}

/-- `f` runs where the course ended, if it did not crash. -/
theorem run_bind (sink : Sink) (c : Course Event α) (f : α → Course Event β) (l : Log) :
    (c.bind f).run sink l =
      match c.run sink l with
      | (.ok a, l') => (f a).run sink l'
      | (.error e, l') => (.error e, l') := by
  induction c generalizing l with
  | done a => rfl
  | crash e => rfl
  | send r next ih => exact ih _ _
  | committed next ih => exact ih _ _
  | readMeter meter next ih => exact ih _ _
  | note event next ih => exact ih _

theorem run_bind_of_ok {sink : Sink} {c : Course Event α} {l : Log} {a : α}
    (ended : (c.run sink l).1 = .ok a) (f : α → Course Event β) :
    (c.bind f).run sink l = (f a).run sink (c.run sink l).2 := by
  rw [run_bind, show c.run sink l = (.ok a, (c.run sink l).2) from Prod.ext ended rfl]

/-- An attempt ends well and leaves the same log. -/
theorem run_attempt (sink : Sink) (c : Course Event α) (l : Log) :
    c.attempt.run sink l = (.ok (c.run sink l).1, (c.run sink l).2) := by
  induction c generalizing l with
  | done a => rfl
  | crash e => rfl
  | send r next ih => exact ih _ _
  | committed next ih => exact ih _ _
  | readMeter meter next ih => exact ih _ _
  | note event next ih => exact ih _

theorem bind_assoc {γ : Type} (c : Course ε α) (f : α → Course ε β) (g : β → Course ε γ) :
    (c.bind f).bind g = c.bind fun a => (f a).bind g := by
  induction c with
  | done a => rfl
  | crash e => rfl
  | send r next ih => simp only [bind, ih]
  | committed next ih => simp only [bind, ih]
  | readMeter meter next ih => simp only [bind, ih]
  | note event next ih => simp only [bind, ih]

/-- An attempt does not crash, so a second one around it is an attempt at what follows. -/
theorem attempt_attempt_bind (c : Course ε α) (f : Except Crash α → Course ε β) :
    (c.attempt.bind f).attempt = c.attempt.bind fun result => (f result).attempt := by
  induction c with
  | done a => rfl
  | crash e => rfl
  | send r next ih => simp only [attempt, bind, ih]
  | committed next ih => simp only [attempt, bind, ih]
  | readMeter meter next ih => simp only [attempt, bind, ih]
  | note event next ih => simp only [attempt, bind, ih]

/-- The first response that the course offers, if nothing has claimed the exchange before. -/
def firstOffer : Course Event α → Log → Option Response
  | .done _, _ => none
  | .crash _, _ => none
  | .send r _, _ => some r
  | .committed next, l => firstOffer (next none) l
  | .readMeter meter next, l => firstOffer (next (l.counts meter)) l
  | .note event next, l => firstOffer next (l.record event)

end Course

/-- Whether a sink that was offered `before` takes the response. -/
def Sink.takes (sink : Sink) (before : List Response) (r : Response) : Bool :=
  (sink before r).isOk

theorem Sink.ok_of_takes {sink : Sink} {before : List Response} {r : Response}
    (h : sink.takes before r = true) : sink before r = .ok () := by
  unfold Sink.takes at h
  cases reply : sink before r with
  | ok _ => rfl
  | error reason =>
    rw [reply] at h
    cases h

namespace Log

@[simp] theorem committed_record (l : Log) (e : Event) : (l.record e).committed = l.committed := by
  cases e <;> rfl

@[simp] theorem offered_record (l : Log) (e : Event) : (l.record e).offered = l.offered := by
  cases e <;> rfl

@[simp] theorem delivered_record (l : Log) (e : Event) : (l.record e).delivered = l.delivered := by
  cases e <;> rfl

/-- How an exchange stands: its claim, and the responses offered and delivered so far. -/
structure Standing (l : Log) (committed : Option Nat) (offered delivered : List Response) :
    Prop where
  committed_eq : l.committed = committed
  offered_eq : l.offered = offered
  delivered_eq : l.delivered = delivered

theorem Standing.record {l : Log} {committed : Option Nat} {offered delivered : List Response}
    (h : l.Standing committed offered delivered) (e : Event) :
    (l.record e).Standing committed offered delivered := by
  refine ⟨?_, ?_, ?_⟩
  · rw [committed_record, h.committed_eq]
  · rw [offered_record, h.offered_eq]
  · rw [delivered_record, h.delivered_eq]

def After (sink : Sink) (before after : Log) : Option Response → Prop
  | none => after.Standing none before.offered before.delivered
  | some r => after.Standing (some r.status) (before.offered ++ [r])
      (before.delivered ++ if sink.takes before.offered r then [r] else [])

theorem After.committed_eq {sink : Sink} {before after : Log} {offer : Option Response}
    (h : After sink before after offer) : after.committed = offer.map Response.status := by
  cases offer <;> exact Standing.committed_eq h

theorem After.offered_eq {sink : Sink} {before after : Log} {offer : Option Response}
    (h : After sink before after offer) : after.offered = before.offered ++ offer.toList := by
  cases offer with
  | none => exact (Standing.offered_eq h).trans (List.append_nil _).symm
  | some r => exact Standing.offered_eq h

theorem After.delivered_eq {sink : Sink} {before after : Log} {offer : Option Response}
    (h : After sink before after offer) :
    after.delivered = before.delivered ++ (offer.filter (sink.takes before.offered)).toList := by
  cases offer with
  | none => exact (Standing.delivered_eq h).trans (List.append_nil _).symm
  | some r =>
    rw [Standing.delivered_eq h, Option.filter]
    cases sink.takes before.offered r <;> rfl

theorem after_record {sink : Sink} {l l' : Log} {e : Event} {offer : Option Response} :
    After sink (l.record e) l' offer ↔ After sink l l' offer := by
  cases offer <;> simp only [After, offered_record, delivered_record]

theorem send_of_committed {l : Log} {status : Nat} (claimed : l.committed = some status)
    (sink : Sink) (r : Response) : l.send sink r = (.error .alreadySent, l) := by
  rw [send, claimed]

theorem send_of_free {l : Log} (free : l.committed = none) (sink : Sink) (r : Response) :
    After sink l (l.send sink r).2 (some r) := by
  rw [send, free]
  cases answer : sink l.offered r with
  | ok _ => exact ⟨rfl, rfl, by simp [Sink.takes, answer, Except.isOk, Except.toBool]⟩
  | error _ => exact ⟨rfl, rfl, by simp [Sink.takes, answer, Except.isOk, Except.toBool]⟩

/-- The sink answers a response that claims the exchange. -/
theorem send_answer_of_free {l : Log} (free : l.committed = none) (sink : Sink) (r : Response) :
    (l.send sink r).1 = (sink l.offered r).mapError .notWritten := by
  rw [send, free]
  cases sink l.offered r <;> rfl

end Log

namespace Course

variable {α : Type}

/-- Once a response has claimed the exchange, nothing more reaches the sink. -/
theorem run_of_committed (sink : Sink) (c : Course Event α) {l : Log} {status : Nat}
    {offered delivered : List Response}
    (h : l.Standing (some status) offered delivered) :
    (c.run sink l).2.Standing (some status) offered delivered := by
  induction c generalizing l with
  | done a => exact h
  | crash e => exact h
  | send r next ih =>
    rw [run, Log.send_of_committed h.committed_eq]
    exact ih _ h
  | committed next ih => exact ih _ h
  | readMeter meter next ih => exact ih _ h
  | note event next ih => exact ih (h.record event)

/-- A run of an unclaimed exchange leaves it as the first offer of the course does. -/
theorem run_of_free (sink : Sink) (c : Course Event α) {l : Log} (free : l.committed = none) :
    Log.After sink l (c.run sink l).2 (c.firstOffer l) := by
  induction c generalizing l with
  | done a => exact ⟨free, rfl, rfl⟩
  | crash e => exact ⟨free, rfl, rfl⟩
  | send r next ih =>
    have claimed : (l.send sink r).2.Standing _ _ _ := Log.send_of_free free sink r
    exact run_of_committed sink (next (l.send sink r).1) claimed
  | committed next ih =>
    rw [run, firstOffer, free]
    exact ih none free
  | readMeter meter next ih => exact ih _ free
  | note event next ih =>
    have recorded : (l.record event).committed = none := by rw [Log.committed_record, free]
    exact Log.after_record.1 (ih recorded)

end Course

@[simp] theorem Log.visits_send (sink : Sink) (r : Response) (l : Log) :
    (l.send sink r).2.visits = l.visits := by
  unfold Log.send
  split
  · rfl
  · split <;> rfl

namespace Course

variable {α β : Type}

/-- Every run of the course enters the handlers of `visits`, in this order, and no others. -/
def Enters (c : Course Event α) (visits : List Visit) : Prop :=
  ∀ sink l, (c.run sink l).2.visits = l.visits ++ visits

theorem done_enters (a : α) : (done a : Course Event α).Enters [] :=
  fun _ _ => (List.append_nil _).symm

theorem Enters.attempt {c : Course Event α} {visits : List Visit} (h : c.Enters visits) :
    c.attempt.Enters visits := by
  intro sink l
  rw [run_attempt]
  exact h sink l

/-- What follows a course adds no visit if it enters no handler. -/
theorem Enters.bind {c : Course Event α} {visits : List Visit} (h : c.Enters visits)
    {f : α → Course Event β} (after : ∀ a, (f a).Enters []) : (c.bind f).Enters visits := by
  intro sink l
  have entered := h sink l
  rw [run_bind]
  cases ended : c.run sink l with
  | mk value l' =>
    rw [ended] at entered
    cases value with
    | error e => exact entered
    | ok a => exact (after a sink l').trans (by rw [entered, List.append_nil])

theorem send_enters {r : Response} {next : Except ResponseError Unit → Course Event α}
    (after : ∀ answer, (next answer).Enters []) : (send r next).Enters [] := by
  intro sink l
  have entered := after (l.send sink r).1 sink (l.send sink r).2
  rw [Log.visits_send] at entered
  exact entered

theorem committed_enters {next : Option Nat → Course Event α} {visits : List Visit}
    (after : ∀ status, (next status).Enters visits) : (committed next).Enters visits :=
  fun sink l => after l.committed sink l

theorem note_entered_enters (visit : Visit) {c : Course Event α} (after : c.Enters []) :
    (note (.entered visit) c).Enters [visit] := by
  intro sink l
  exact (after sink _).trans (List.append_nil _)

theorem note_counted_enters (meter : String) (outcome : CallOutcome) {c : Course Event α}
    (after : c.Enters []) : (note (.counted meter outcome) c).Enters [] :=
  fun sink l => after sink (l.record (.counted meter outcome))

/-- A handler enters no other handler. -/
theorem lift_enters (act : Act α) : (act.lift : Course Event α).Enters [] := by
  induction act with
  | done a => exact done_enters a
  | crash e => exact fun _ _ => (List.append_nil _).symm
  | send r next ih => exact send_enters ih
  | committed next ih => exact committed_enters ih
  | readMeter meter next ih => exact fun sink l => ih (l.counts meter) sink l
  | note event next ih => exact event.elim

end Course

end RequestRouter
