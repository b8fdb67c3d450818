import RequestRouter.Exchange.Basic
import RequestRouter.Proofs.Exchange.Course
import RequestRouter.Proofs.Table.Lookup
import RequestRouter.Proofs.Tree.Shape

/-!
# Calls that reach a meter

A layer that counts is called with a request, calls its node with it, and counts how the node ended
once the node has come back. Below, every such call is listed for a whole run, with the ending that
its node had, whatever layers stand above and below. Main statement: the counters after a run are
those before it and one more for every call that came back; a call that ended in a crash is listed,
but not counted.
-/

namespace RequestRouter

/-- What a stage can do with a node: ask what it accepts, call it any number of times, send
responses, read meters, and go on as the answers are. -/
inductive Caller where
  | done (result : Except RouteError Bool)
  | crash (c : Crash)
  | ask (method : Method) (path : String) (next : Bool → Caller)
  /-- Calls the node. The caller may go on after a crash of the node, too. -/
  | call (s : RequestState) (draft : Draft)
    (next : Except Crash (Except RouteError Bool) → Caller)
  | send (r : Response) (next : Except ResponseError Unit → Caller)
  | committed (next : Option Nat → Caller)
  | readMeter (meter : String) (next : Counts → Caller)

namespace Caller

def play (node : Next) : Caller → Handled
  | .done result => .done result
  | .crash c => .crash c
  | .ask method path next => play node (next (node.accepts method path))
  | .call s draft next => (node.run s draft).attempt.bind fun result => play node (next result)
  | .send r next => .send r fun answer => play node (next answer)
  | .committed next => .committed fun status => play node (next status)
  | .readMeter meter next => .readMeter meter fun counts => play node (next counts)

def stage (callers : RequestState → Draft → Caller) : Stage :=
  fun node s draft => (callers s draft).play node

/-- All calls of a meter in the course of a caller's run, if `below` lists those of one run of the
node. -/
def calls (sink : Sink) (node : Next)
    (below : RequestState → Draft → Log → List (Option CallOutcome)) :
    Caller → Log → List (Option CallOutcome)
  | .done _, _ => []
  | .crash _, _ => []
  | .ask method path next, l => calls sink node below (next (node.accepts method path)) l
  | .call s draft next, l =>
    let (result, l') := (node.run s draft).run sink l
    below s draft l ++ calls sink node below (next result) l'
  | .send r next, l =>
    let (answer, l') := l.send sink r
    calls sink node below (next answer) l'
  | .committed next, l => calls sink node below (next l.committed) l
  | .readMeter meter next, l => calls sink node below (next (l.counts meter)) l

end Caller

namespace Layer

/-- How a call of the node ended; none if it crashed. -/
def ending : Except Crash (Except RouteError Bool) → Option CallOutcome
  | .ok result => some (callOutcome result)
  | .error _ => none

section Calls

variable (callers : Stage → RequestState → Draft → Caller) (meter : String) (sink : Sink)

/-- All calls of the meter in a run of the layer. A layer that counts under the meter is called
itself, after the calls that its node makes. -/
def calls (node : Next) (below : RequestState → Draft → Log → List (Option CallOutcome)) :
    Layer → RequestState → Draft → Log → List (Option CallOutcome)
  | .notFound, s, draft, l => if node.accepts s.method s.remaining then below s draft l else []
  | .serverFault, s, draft, l => below s draft l
  | .profile, s, draft, l => below s draft l
  | .tracing, s, draft, l => below s draft l
  | .metrics own, s, draft, l =>
    below s draft l ++ if own = meter then [ending ((node.run s draft).run sink l).1] else []
  | .jsonBody schema policy, s, draft, l =>
    match readBody schema policy s.request.body with
    | .ok c => below ((s.withBody (.structured c.record)).withExtensions c.extras) draft l
    | .error _ => []
  | .cookies schema, s, draft, l => below (attachCookies schema s) draft l
  | .custom stage, s, draft, l => (callers stage s draft).calls sink node below l

end Calls

/-- A stage of the tree's own does what its caller does. -/
def PlaysBy (callers : Stage → RequestState → Draft → Caller) : Layer → Prop
  | .custom stage => ∀ node s draft, stage node s draft = (callers stage s draft).play node
  | _ => True

end Layer

namespace RouteTree

def PlaysBy (callers : Stage → RequestState → Draft → Caller) : RouteTree → Prop :=
  Everywhere (fun _ => True) (Layer.PlaysBy callers)

def next (t : RouteTree) : Next where
  accepts := fun method path => t.accepts method path.toList
  run := fun s draft => t.invoke s draft

section Calls

variable (callers : Stage → RequestState → Draft → Caller) (meter : String) (sink : Sink)

mutual

/-- All calls of the meter in a run of the tree, in the order in which they end. -/
def calls : RouteTree → RequestState → Draft → Log → List (Option CallOutcome)
  | .endpoint _, _, _, _ => []
  | .bind pattern nested, s, draft, l =>
    match bindPattern pattern s with
    | some s' => calls nested s' draft l
    | none => []
  | .group members, s, draft, l => callsOfFirst members s draft l
  | .null, _, _, _ => []
  | .layer stand nested, s, draft, l =>
    stand.calls callers meter sink nested.next (fun s draft l => calls nested s draft l) s draft l

def callsOfFirst : List RouteTree → RequestState → Draft → Log → List (Option CallOutcome)
  | [], _, _, _ => []
  | t :: rest, s, draft, l =>
    if accepts t s.method s.remaining.toList then calls t s draft l
    else callsOfFirst rest s draft l

end

end Calls

end RouteTree

namespace Counts

/-- The counters after one more call. Nothing is counted of a crash. -/
def tally (c : Counts) : Option CallOutcome → Counts
  | some outcome => c.add outcome
  | none => c

def tallyAll (c : Counts) (endings : List (Option CallOutcome)) : Counts :=
  endings.foldl tally c

@[simp] theorem tallyAll_append (c : Counts) (before after : List (Option CallOutcome)) :
    c.tallyAll (before ++ after) = (c.tallyAll before).tallyAll after :=
  List.foldl_append ..

end Counts

namespace Log

theorem meters_send (sink : Sink) (r : Response) (l : Log) :
    (l.send sink r).2.meters = l.meters := by
  rw [send]
  cases l.committed with
  | some _ => rfl
  | none => cases sink l.offered r <;> rfl

theorem counts_send (sink : Sink) (r : Response) (l : Log) (meter : String) :
    (l.send sink r).2.counts meter = l.counts meter := by
  rw [counts, counts, meters_send]

theorem counts_record (own : String) (outcome : CallOutcome) (l : Log) (meter : String) :
    (l.record (.counted own outcome)).counts meter =
      (l.counts meter).tallyAll (if own = meter then [some outcome] else []) := by
  rw [counts, record, Table.get?_insert]
  split
  · rename_i same
    subst same
    rfl
  · rfl

end Log

namespace Course

variable {α β : Type}

/-- Whatever the sink answers, the course counts nothing. -/
def Uncounted (c : Course Event α) : Prop :=
  ∀ sink l meter, (c.run sink l).2.counts meter = l.counts meter

theorem done_uncounted (a : α) : (done a : Course Event α).Uncounted :=
  fun _ _ _ => rfl

theorem send_uncounted {r : Response} {next : Except ResponseError Unit → Course Event α}
    (after : ∀ answer, (next answer).Uncounted) : (send r next).Uncounted := by
  intro sink l meter
  rw [← Log.counts_send sink r l meter]
  exact after (l.send sink r).1 sink (l.send sink r).2 meter

theorem committed_uncounted {next : Option Nat → Course Event α}
    (after : ∀ status, (next status).Uncounted) : (committed next).Uncounted :=
  fun sink l meter => after l.committed sink l meter

theorem readMeter_uncounted {own : String} {next : Counts → Course Event α}
    (after : ∀ counts, (next counts).Uncounted) : (readMeter own next).Uncounted :=
  fun sink l meter => after (l.counts own) sink l meter

theorem note_entered_uncounted (visit : Visit) {c : Course Event α} (after : c.Uncounted) :
    (note (.entered visit) c).Uncounted :=
  fun sink l meter => after sink (l.record (.entered visit)) meter

/-- A handler counts nothing. -/
theorem lift_uncounted (act : Act α) : (act.lift : Course Event α).Uncounted := by
  induction act with
  | done a => exact done_uncounted a
  | crash e => exact fun _ _ _ => rfl
  | send r next ih => exact send_uncounted ih
  | committed next ih => exact committed_uncounted ih
  | readMeter own next ih => exact readMeter_uncounted ih
  | note event next ih => exact event.elim

/-- What counts nothing leaves the count as it was where it starts. -/
theorem counts_run_bind (c : Course Event α) {f : α → Course Event β}
    (after : ∀ a, (f a).Uncounted) (sink : Sink) (l : Log) (meter : String) :
    ((c.bind f).run sink l).2.counts meter = (c.run sink l).2.counts meter := by
  rw [run_bind]
  rcases c.run sink l with ⟨a | e, l'⟩
  · rfl
  · exact after _ sink l' meter

theorem Uncounted.bind {c : Course Event α} (h : c.Uncounted) {f : α → Course Event β}
    (after : ∀ a, (f a).Uncounted) : (c.bind f).Uncounted :=
  fun sink l meter => (counts_run_bind c after sink l meter).trans (h sink l meter)

end Course

theorem answer_uncounted (r : Response) : (answer r).Uncounted := by
  refine Course.send_uncounted fun reply => ?_
  cases reply <;> exact Course.done_uncounted _

theorem Layer.sendFault_uncounted (draft : Draft) : (sendFault draft).Uncounted := by
  refine Course.committed_uncounted fun status => ?_
  cases status with
  | some _ => exact Course.done_uncounted ()
  | none => exact Course.send_uncounted fun _ => Course.done_uncounted ()

/-- Every run of the node counts the calls that `below` lists for it. -/
def Next.Counted (meter : String) (sink : Sink) (node : Next)
    (below : RequestState → Draft → Log → List (Option CallOutcome)) : Prop :=
  ∀ s draft l, ((node.run s draft).run sink l).2.counts meter =
    (l.counts meter).tallyAll (below s draft l)

section Counted

variable {callers : Stage → RequestState → Draft → Caller} {meter : String} {sink : Sink}
  {node : Next} {below : RequestState → Draft → Log → List (Option CallOutcome)}

/-- A caller adds nothing to what its calls count. -/
theorem Caller.counted (h : node.Counted meter sink below) (caller : Caller) (l : Log) :
    ((caller.play node).run sink l).2.counts meter =
      (l.counts meter).tallyAll (caller.calls sink node below l) := by
  induction caller generalizing l with
  | done result => rfl
  | crash c => rfl
  | ask method path next ih => exact ih _ l
  | call s draft next ih =>
    have nested := h s draft l
    rw [play, Course.run_bind, Course.run_attempt, calls, Counts.tallyAll_append, ← nested]
    exact ih _ _
  | send r next ih =>
    rw [← Log.counts_send sink r l meter]
    exact ih _ _
  | committed next ih => exact ih _ l
  | readMeter own next ih => exact ih _ l

/-- A layer adds its own call to those of its node, if it counts under the meter, and nothing
else. -/
theorem Layer.counted {l : Layer} (plays : l.PlaysBy callers) (h : node.Counted meter sink below)
    (s : RequestState) (draft : Draft) (log : Log) :
    ((l.call node s draft).run sink log).2.counts meter =
      (log.counts meter).tallyAll (l.calls callers meter sink node below s draft log) := by
  cases l with
  | notFound =>
    by_cases accepted : node.accepts s.method s.remaining
    · simpa only [call, runNotFound, calls, if_pos accepted] using h s draft log
    · simp only [call, runNotFound, calls, if_neg accepted]
      exact answer_uncounted _ sink log meter
  | serverFault =>
    refine (Course.counts_run_bind _ (fun result => ?_) sink log meter).trans ?_
    · cases outcomeOf result with
      | ok handled => exact Course.done_uncounted _
      | error cause => exact (sendFault_uncounted draft).bind fun _ => Course.done_uncounted _
    · rw [Course.run_attempt]
      exact h s draft log
  | profile | tracing => exact h s draft log
  | metrics own =>
    have nested := h s draft log
    show (((node.run s draft).bind _).run sink log).2.counts meter = _
    rw [Course.run_bind, calls, Counts.tallyAll_append, ← nested]
    rcases (node.run s draft).run sink log with ⟨crash | result, log'⟩
    · -- a crash comes back past the layer, so its call is listed without an outcome
      by_cases same : own = meter
      · rw [if_pos same]
        rfl
      · rw [if_neg same]
        rfl
    · exact Log.counts_record own (callOutcome result) log' meter
  | jsonBody schema policy =>
    cases read : readBody schema policy s.request.body with
    | ok c => simpa only [call, runJsonBody, calls, read] using h _ draft log
    | error reason =>
      simp only [call, runJsonBody, calls, read]
      exact answer_uncounted _ sink log meter
  | cookies schema => exact h (attachCookies schema s) draft log
  | custom stage =>
    show ((stage node s draft).run sink log).2.counts meter = _
    rw [plays node s draft]
    exact Caller.counted h (callers stage s draft) log

end Counted

theorem Endpoint.invoke_uncounted (e : Endpoint) (s : RequestState) (draft : Draft) :
    (e.invoke s draft).Uncounted := by
  unfold Endpoint.invoke
  split
  · exact Course.done_uncounted _
  · rename_i prepared _
    refine Course.note_entered_uncounted _ ((Course.lift_uncounted _).bind fun result => ?_)
    cases result <;> exact Course.done_uncounted _

theorem RouteTree.callsOfFirst_eq_find (callers : Stage → RequestState → Draft → Caller)
    (meter : String) (sink : Sink) (members : List RouteTree) (s : RequestState) (draft : Draft)
    (l : Log) : callsOfFirst callers meter sink members s draft l =
      match members.find? fun t => accepts t s.method s.remaining.toList with
      | some t => t.calls callers meter sink s draft l
      | none => [] := by
  induction members with
  | nil => rfl
  | cons t rest ih =>
    rw [callsOfFirst, List.find?_cons]
    cases accepts t s.method s.remaining.toList with
    | true => rfl
    | false => exact ih

/-- A run of a tree counts its calls: those that came back, each as it ended. -/
theorem RouteTree.counted {callers : Stage → RequestState → Draft → Caller} {t : RouteTree}
    (plays : t.PlaysBy callers) (meter : String) (sink : Sink) (s : RequestState) (draft : Draft)
    (l : Log) :
    ((t.invoke s draft).run sink l).2.counts meter =
      (l.counts meter).tallyAll (t.calls callers meter sink s draft l) := by
  induction t using RouteTree.induct generalizing s draft l with
  | endpoint e => exact e.invoke_uncounted s draft sink l meter
  | bind pattern nested ih =>
    rw [invoke, calls]
    cases bindPattern pattern s with
    | some s' => exact ih plays s' draft l
    | none => rfl
  | group members ih =>
    have each := everywhereIn_iff.1 plays
    rw [invoke, invokeFirst_eq_find, calls, callsOfFirst_eq_find]
    cases found : members.find? fun t => accepts t s.method s.remaining.toList with
    | none => rfl
    | some t =>
      have listed := List.mem_of_find?_eq_some found
      exact ih t listed (each t listed) s draft l
  | null => rfl
  | layer stand nested ih =>
    have below : nested.next.Counted meter sink
        fun s draft l => nested.calls callers meter sink s draft l :=
      fun s draft l => ih plays.2 s draft l
    exact Layer.counted plays.1 below s draft l

end RequestRouter
