import RequestRouter.Proofs.Exchange.Meters
import RequestRouter.Proofs.Tree.Unmatched

/-!
# What a tree answers

A course settles an exchange if it ends with a value that is known in advance, after one response
of a known status or after none. Main statement: a tree of standard layers settles an exchange as
its first accepting leaf does. A body parser that rejects the body makes it a 400, and a fault
boundary makes a 500 of an error before which nothing was sent.
-/

namespace RequestRouter

namespace Log

variable {sink : Sink} {l l' after : Log} {sent : Option Response}

/-- Where an exchange stands depends on what was offered and delivered before it. -/
theorem after_congr (offered : l'.offered = l.offered) (delivered : l'.delivered = l.delivered) :
    After sink l' after sent ↔ After sink l after sent := by
  cases sent <;> rw [After, After, offered, delivered]

end Log

namespace Course

variable {α β : Type}

/-- Against a sink that takes all, in an exchange that nothing has claimed, the course ends with
`a`, and with a response of the status or without any. -/
def Settles (c : Course Event α) (a : α) (status : Option Nat) : Prop :=
  ∀ sink l, sink.TakesAll → l.committed = none → ∃ sent : Option Response,
    sent.map Response.status = status ∧ (c.run sink l).1 = .ok a ∧
      Log.After sink l (c.run sink l).2 sent

/-- The course ends with `a` and sends nothing, whatever was sent before. -/
def Silent (c : Course Event α) (a : α) : Prop :=
  ∀ sink l, (c.run sink l).1 = .ok a ∧
    ∀ status offered delivered, l.Standing status offered delivered →
      (c.run sink l).2.Standing status offered delivered

theorem done_silent (a : α) : (done a : Course Event α).Silent a :=
  fun _ _ => ⟨rfl, fun _ _ _ standing => standing⟩

theorem note_silent (event : Event) {c : Course Event α} {a : α} (after : c.Silent a) :
    (note event c).Silent a := by
  intro sink l
  obtain ⟨ended, kept⟩ := after sink (l.record event)
  exact ⟨ended, fun _ _ _ standing => kept _ _ _ (standing.record event)⟩

theorem Silent.after {c : Course Event α} {a : α} (h : c.Silent a) {sink : Sink} {l l' : Log}
    {sent : Option Response} (before : Log.After sink l l' sent) :
    Log.After sink l (c.run sink l').2 sent := by
  cases sent <;> exact (h sink l').2 _ _ _ before

theorem done_settles (a : α) : (done a : Course Event α).Settles a none :=
  fun _ _ _ free => ⟨none, rfl, rfl, free, rfl, rfl⟩

namespace Settles

variable {c : Course Event α} {a : α} {b : β} {status : Option Nat}

theorem note (h : c.Settles a status) (event : Event) : (note event c).Settles a status := by
  intro sink l takesAll free
  obtain ⟨sent, same, ended, after⟩ :=
    h sink (l.record event) takesAll ((Log.committed_record l event).trans free)
  exact ⟨sent, same, ended, Log.after_record.1 after⟩

theorem attempt (h : c.Settles a status) : c.attempt.Settles (.ok a) status := by
  intro sink l takesAll free
  obtain ⟨sent, same, ended, after⟩ := h sink l takesAll free
  rw [run_attempt, ended]
  exact ⟨sent, same, rfl, after⟩

/-- What follows a settled exchange and sends nothing leaves it settled. -/
theorem bind_silent (h : c.Settles a status) {f : α → Course Event β} (silent : (f a).Silent b) :
    (c.bind f).Settles b status := by
  intro sink l takesAll free
  obtain ⟨sent, same, ended, after⟩ := h sink l takesAll free
  rw [run_bind_of_ok ended]
  exact ⟨sent, same, (silent sink _).1, silent.after after⟩

end Settles

theorem send_settles (r : Response) {next : Except ResponseError Unit → Course Event α} {a : α}
    (silent : (next (.ok ())).Silent a) : (send r next).Settles a (some r.status) := by
  intro sink l takesAll free
  have answered : (l.send sink r).1 = .ok () := by
    rw [Log.send_answer_of_free free, takesAll l.offered r]
    rfl
  have ran : (send r next).run sink l = (next (.ok ())).run sink (l.send sink r).2 := by
    show run sink (next (l.send sink r).1) (l.send sink r).2 = _
    rw [answered]
  rw [ran]
  exact ⟨some r, rfl, (silent sink _).1, silent.after (Log.send_of_free free sink r)⟩

theorem readMeter_settles {meter : String} {next : Counts → Course Event α} {a : α}
    {status : Option Nat} (after : ∀ counts, (next counts).Settles a status) :
    (readMeter meter next).Settles a status :=
  fun sink l takesAll free => after (l.counts meter) sink l takesAll free

end Course

/-- A handler that responds with all that it has to say. -/
theorem respond_settles (r : Response) :
    ((respond r).lift : Course Event (Except HandlerError Unit)).Settles (.ok ())
      (some r.status) :=
  Course.send_settles r (Course.done_silent _)

theorem answer_settles (r : Response) : (answer r).Settles (.ok true) (some r.status) :=
  Course.send_settles r (Course.done_silent _)

def Endpoint.resultOf : Except HandlerError Unit → Except RouteError Bool
  | .ok () => .ok true
  | .error cause => .error (.handler cause)

theorem Endpoint.invoke_settles {e : Endpoint} {s prepared : RequestState} {draft : Draft}
    {result : Except HandlerError Unit} {status : Option Nat}
    (prepares : prepare e.declares s = .ok prepared)
    (ends : ((e.handler prepared draft).lift : Course Event _).Settles result status) :
    (e.invoke s draft).Settles (resultOf result) status := by
  unfold invoke
  rw [prepares]
  refine Course.Settles.note (ends.bind_silent ?_) _
  cases result <;> exact Course.done_silent _

namespace Layer

/-- How an exchange ends above the layer that ended so below it. Only a fault boundary makes a
difference, to errors. -/
def mend : Layer → Except RouteError Bool × Option Nat → Except RouteError Bool × Option Nat
  | .serverFault, (.error _, sent) => (.ok false, some (sent.getD 500))
  | _, ending => ending

theorem mend_ok (l : Layer) (handled : Bool) (sent : Option Nat) :
    l.mend (.ok handled, sent) = (.ok handled, sent) := by
  cases l <;> rfl

variable {l : Layer} {next : Next} {s s' : RequestState} {draft : Draft}
  {ending : Except RouteError Bool × Option Nat}

theorem serverFault_settles (below : (next.run s draft).Settles ending.1 ending.2) :
    (serverFault.call next s draft).Settles (serverFault.mend ending).1
      (serverFault.mend ending).2 := by
  obtain ⟨result, status⟩ := ending
  intro sink log takesAll free
  have ran : ∃ sent : Option Response, sent.map Response.status = status ∧ _ :=
    below sink log takesAll free
  obtain ⟨sent, rfl, ended, after⟩ := ran
  cases result with
  | ok handled =>
    rw [serverFault_run_of_handled ended]
    exact ⟨sent, rfl, ended, after⟩
  | error cause =>
    rw [serverFault_run_of_failed (Or.inl ⟨cause, ended⟩)]
    cases sent with
    | some r =>
      rw [sendFault_of_committed after.committed_eq]
      exact ⟨some r, rfl, rfl, after⟩
    | none =>
      have quiet : Log.Standing _ none log.offered log.delivered := after
      rw [sendFault_of_free quiet.committed_eq]
      have offers := Log.send_of_free quiet.committed_eq sink (faultResponse draft.headers)
      rw [Log.after_congr quiet.offered_eq quiet.delivered_eq] at offers
      exact ⟨some (faultResponse draft.headers), rfl, rfl, offers⟩

/-- A standard layer that hands the request on settles as its node does, up to mending. -/
theorem call_settles (standard : l.Standard)
    (accepted : l = .notFound → next.accepts s.method s.remaining = true)
    (passed : l.pass s = some s') (below : (next.run s' draft).Settles ending.1 ending.2) :
    (l.call next s draft).Settles (l.mend ending).1 (l.mend ending).2 := by
  cases l with
  | notFound =>
    cases passed
    rw [call_notFound_of_accepts (accepted rfl)]
    exact below
  | serverFault =>
    cases passed
    exact serverFault_settles below
  | profile | tracing =>
    cases passed
    exact below
  | metrics meter =>
    cases passed
    exact below.bind_silent (Course.note_silent _ (Course.done_silent _))
  | jsonBody schema policy =>
    rw [call_jsonBody_of_pass passed]
    exact below
  | cookies schema =>
    cases passed
    exact below
  | custom stage => exact standard.elim

theorem call_settles_of_rejects (rejects : l.Rejects s.request.body) :
    (l.call next s draft).Settles (.ok true) (some 400) := by
  have objects : l.objection s.request.body ≠ none :=
    fun none => objection_eq_none_iff.1 none rejects
  obtain ⟨reason, objection⟩ := Option.ne_none_iff_exists'.1 objects
  rw [call_of_objection objection]
  exact answer_settles _

end Layer

namespace Leaf

/-- How an exchange ends above the leaf's layers that ended so at its endpoint. -/
def mended (leaf : Leaf) (ending : Except RouteError Bool × Option Nat) :
    Except RouteError Bool × Option Nat :=
  leaf.layers.foldr Layer.mend ending

theorem mended_below_pattern (leaf : Leaf) (source : String)
    (ending : Except RouteError Bool × Option Nat) :
    (leaf.below (.pattern source)).mended ending = leaf.mended ending := rfl

theorem mended_below_layer (leaf : Leaf) (l : Layer)
    (ending : Except RouteError Bool × Option Nat) :
    (leaf.below (.layer l)).mended ending = l.mend (leaf.mended ending) := rfl

theorem mended_ok (leaf : Leaf) (handled : Bool) (sent : Option Nat) :
    leaf.mended (.ok handled, sent) = (.ok handled, sent) := by
  induction leaf using Leaf.induct with
  | endpoint e => rfl
  | below hop leaf ih =>
    cases hop with
    | pattern source => exact ih
    | layer l => rw [mended_below_layer, ih, Layer.mend_ok]

/-- How an exchange ends at the leaf: as its endpoint settles it, or in a 400 if a body parser keeps
the request. -/
inductive Settles (leaf : Leaf) (s : RequestState) (draft : Draft) :
    Except RouteError Bool × Option Nat → Prop
  | arrived {arriving : RequestState} {ending : Except RouteError Bool × Option Nat}
    (arrives : leaf.arrive s = some arriving)
    (settled : (leaf.endpoint.invoke arriving draft).Settles ending.1 ending.2) :
    Settles leaf s draft ending
  | kept (keeps : leaf.arrive s = none) : Settles leaf s draft (.ok true, some 400)

variable {leaf : Leaf} {s s' : RequestState} {draft : Draft}
  {ending : Except RouteError Bool × Option Nat}

theorem settles_of_arrive (accepts : leaf.Accepts s.method s.remaining)
    (clear : ∀ l ∈ leaf.layers, ¬ l.Rejects s.request.body)
    {result : Except HandlerError Unit} {status : Option Nat}
    (ends : ∀ arriving, leaf.arrive s = some arriving →
      ∃ prepared, Endpoint.prepare leaf.endpoint.declares arriving = .ok prepared ∧
        ((leaf.endpoint.handler prepared draft).lift : Course Event _).Settles result status) :
    leaf.Settles s draft (Endpoint.resultOf result, status) := by
  have comes : ∃ arriving, leaf.arrive s = some arriving := exists_arrive accepts clear
  obtain ⟨arriving, arrives⟩ := comes
  obtain ⟨prepared, prepares, settled⟩ := ends arriving arrives
  exact .arrived arrives (Endpoint.invoke_settles prepares settled)

theorem settles_of_rejects (rejects : ∃ l ∈ leaf.layers, l.Rejects s.request.body) :
    leaf.Settles s draft (.ok true, some 400) :=
  .kept (arrive_of_rejects rejects)

theorem settles_below (hop : Hop) (passed : hop.pass s = some s')
    (h : (leaf.below hop).Settles s draft ending) : leaf.Settles s' draft ending := by
  cases h with
  | arrived arrives settled =>
    rw [arrive_below, passed, Option.bind_some] at arrives
    exact .arrived arrives settled
  | kept keeps =>
    rw [arrive_below, passed, Option.bind_some] at keeps
    exact .kept keeps

theorem eq_of_settles_below (hop : Hop) (kept : hop.pass s = none)
    (h : (leaf.below hop).Settles s draft ending) : ending = (.ok true, some 400) := by
  cases h with
  | arrived arrives settled =>
    rw [arrive_below, kept, Option.bind_none] at arrives
    cases arrives
  | kept keeps => rfl

end Leaf

/-- A tree of standard layers settles an exchange as the first leaf that accepts the request, mended
by the layers above that leaf. -/
theorem RouteTree.invoke_settles {t : RouteTree} (standard : t.Standard) {s : RequestState}
    {leaf : Leaf} (first : t.firstLeaf s.method s.remaining = some leaf) {draft : Draft}
    {ending : Except RouteError Bool × Option Nat} (settles : leaf.Settles s draft ending) :
    (t.invoke s draft).Settles (leaf.mended ending).1 (leaf.mended ending).2 := by
  induction t using RouteTree.induct generalizing s leaf with
  | endpoint e =>
    have own : leaf = ⟨[], e⟩ := by
      simpa [leaves] using List.mem_of_find?_eq_some first
    subst own
    cases settles with
    | arrived arrives settled =>
      cases arrives
      exact settled
    | kept keeps => cases keeps
  | bind pattern nested ih =>
    obtain ⟨left, inner, cut, below, rfl⟩ := firstLeaf_bind first
    obtain ⟨s', bound, request, rfl⟩ := exists_bindPattern cut
    rw [invoke, bound, Leaf.mended_below_pattern]
    refine ih standard ?_ (Leaf.settles_below (.pattern pattern) bound settles)
    rw [RequestState.method_congr request]
    exact below
  | group members ih =>
    obtain ⟨t, listed, found, below⟩ := firstLeaf_group first
    rw [invoke, invokeFirst_eq_find, found]
    exact ih t listed (everywhereIn_iff.1 standard t listed) below settles
  | null => simp [firstLeaf, leaves] at first
  | layer l nested ih =>
    obtain ⟨inner, below, rfl⟩ := firstLeaf_layer first
    rw [invoke, Leaf.mended_below_layer]
    cases passed : l.pass s with
    | none =>
      obtain rfl := Leaf.eq_of_settles_below (.layer l) passed settles
      rw [Leaf.mended_ok, Layer.mend_ok]
      exact Layer.call_settles_of_rejects (Layer.pass_eq_none_iff.1 passed)
    | some s' =>
      obtain ⟨request, remaining⟩ := Layer.pass_frame passed
      refine Layer.call_settles standard.1 (fun _ => accepts_of_firstLeaf below) passed ?_
      refine ih standard.2 ?_ (Leaf.settles_below (.layer l) passed settles)
      rw [RequestState.method_congr request, remaining]
      exact below

end RequestRouter
