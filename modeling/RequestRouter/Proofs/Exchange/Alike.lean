import RequestRouter.Proofs.Exchange.Meters

/-!
# Courses that run alike

Two courses are alike if they differ in what they count at most: from logs that are equal up to
their meters they end with the same value, and the logs after them are equal up to their meters.
Only a course that reads a meter is not alike itself.
-/

namespace RequestRouter

def Log.unmetered (l : Log) : Log :=
  { l with meters := .empty }

namespace Log

variable {l l' : Log}

theorem committed_eq_of_unmetered (same : l.unmetered = l'.unmetered) :
    l.committed = l'.committed := by
  have field := congrArg committed same
  exact field

/-- Sending neither looks at the meters nor moves them. -/
theorem send_unmetered (same : l.unmetered = l'.unmetered) (sink : Sink) (r : Response) :
    (l.send sink r).1 = (l'.send sink r).1 ∧
      (l.send sink r).2.unmetered = (l'.send sink r).2.unmetered := by
  obtain ⟨claim, offered, delivered, visits, meters⟩ := l
  obtain ⟨claim', offered', delivered', visits', meters'⟩ := l'
  simp only [unmetered, Log.mk.injEq] at same
  obtain ⟨rfl, rfl, rfl, rfl, -⟩ := same
  cases claim with
  | some status => exact ⟨rfl, rfl⟩
  | none =>
    cases taken : sink offered r with
    | ok _ => simp [send, unmetered, taken]
    | error reason => simp [send, unmetered, taken]

theorem record_unmetered (same : l.unmetered = l'.unmetered) (e : Event) :
    (l.record e).unmetered = (l'.record e).unmetered := by
  simp only [unmetered, Log.mk.injEq] at same
  obtain ⟨claim, offered, delivered, visits, -⟩ := same
  cases e with
  | entered visit => simp [record, unmetered, *]
  | counted meter outcome => simp [record, unmetered, *]

theorem record_counted_unmetered (l : Log) (meter : String) (outcome : CallOutcome) :
    (l.record (.counted meter outcome)).unmetered = l.unmetered := rfl

theorem nextExchange_unmetered (same : l.unmetered = l'.unmetered) :
    l.nextExchange.unmetered = l'.nextExchange.unmetered :=
  congrArg nextExchange same

end Log

namespace Course

variable {α β : Type}

/-- From logs that are equal up to their meters the two courses end alike. -/
def Alike (c c' : Course Event α) : Prop :=
  ∀ sink l l', l.unmetered = l'.unmetered →
    (c.run sink l).1 = (c'.run sink l').1 ∧
      (c.run sink l).2.unmetered = (c'.run sink l').2.unmetered

namespace Alike

theorem done (a : α) : (Course.done a).Alike (.done a) := by
  intro sink l l' same
  exact ⟨rfl, same⟩

theorem crash (e : Crash) : (Course.crash e : Course Event α).Alike (.crash e) := by
  intro sink l l' same
  exact ⟨rfl, same⟩

theorem send (r : Response) {next next' : Except ResponseError Unit → Course Event α}
    (after : ∀ answer, (next answer).Alike (next' answer)) :
    (Course.send r next).Alike (.send r next') := by
  intro sink l l' same
  obtain ⟨answer, sent⟩ := Log.send_unmetered same sink r
  have below := after (l.send sink r).1 sink _ _ sent
  simpa only [run, answer] using below

theorem committed {next next' : Option Nat → Course Event α}
    (after : ∀ status, (next status).Alike (next' status)) :
    (Course.committed next).Alike (.committed next') := by
  intro sink l l' same
  rw [run, run, ← Log.committed_eq_of_unmetered same]
  exact after l.committed sink l l' same

theorem note (event : Event) {c c' : Course Event α} (after : c.Alike c') :
    (Course.note event c).Alike (.note event c') := by
  intro sink l l' same
  exact after sink _ _ (Log.record_unmetered same event)

variable {c c' : Course Event α}

theorem bind (h : c.Alike c') {f f' : α → Course Event β} (after : ∀ a, (f a).Alike (f' a)) :
    (c.bind f).Alike (c'.bind f') := by
  intro sink l l' same
  obtain ⟨value, logs⟩ := h sink l l' same
  rw [run_bind, run_bind]
  cases ended : c.run sink l with
  | mk result log =>
    cases ended' : c'.run sink l' with
    | mk result' log' =>
      rw [ended, ended'] at value logs
      dsimp only at value logs
      subst value
      cases result with
      | error e => exact ⟨rfl, logs⟩
      | ok a => exact after a sink log log' logs

theorem attempt (h : c.Alike c') : c.attempt.Alike c'.attempt := by
  intro sink l l' same
  obtain ⟨value, logs⟩ := h sink l l' same
  rw [run_attempt, run_attempt]
  exact ⟨congrArg Except.ok value, logs⟩

/-- It makes no difference that one of the two counts its result. -/
theorem counted (h : c.Alike c') (meter : String) (outcome : α → CallOutcome) :
    c.Alike (c'.bind fun a => .note (.counted meter (outcome a)) (.done a)) := by
  intro sink l l' same
  obtain ⟨value, logs⟩ := h sink l l' same
  rw [run_bind]
  cases ended : c'.run sink l' with
  | mk result log' =>
    rw [ended] at value logs
    cases result with
    | error e => exact ⟨value, logs⟩
    | ok a => exact ⟨value, logs.trans (Log.record_counted_unmetered log' meter (outcome a)).symm⟩

end Alike

theorem IgnoresMeters.alike {c : Course Event α} (h : c.IgnoresMeters) : c.Alike c := by
  induction c with
  | done a => exact .done a
  | crash e => exact .crash e
  | send r next ih => exact .send r fun answer => ih answer (h answer)
  | committed next ih => exact .committed fun status => ih status (h status)
  | readMeter meter next ih =>
    intro sink l l' same
    have below := ih (l.counts meter) (h.2 _) sink l l' same
    rw [run, run, ← h.1 (l.counts meter) (l'.counts meter)]
    exact below
  | note event next ih => exact .note event (ih h)

end Course

end RequestRouter
