import RequestRouter.Proofs.Exchange.Alike
import RequestRouter.Proofs.Tree.Insertion
import RequestRouter.Proofs.Tree.Selection

/-!
# Layers that make no difference

A layer that only watches its node changes nothing but the meters, wherever it stands. A layer that
answers 404 changes nothing for a request that its node accepts; below a pattern or a group, where
only such requests come, it changes nothing at all. Stages of a tree's own have to play by the
rules: they know of their node what it accepts and how its runs end, and they do not run it with a
request that it does not accept.
-/

namespace RequestRouter

/-- A layer that hands the request on and watches how the node ends. -/
inductive Layer.Watches : Layer → Prop
  | profile : Watches .profile
  | tracing : Watches .tracing
  | metrics (meter : String) : Watches (.metrics meter)

/-- Two nodes that accept the same requests and run alike. -/
structure Next.Alike (next next' : Next) : Prop where
  accepts : next.accepts = next'.accepts
  run : ∀ s draft, (next.run s draft).Alike (next'.run s draft)

/-- The stage runs alike around nodes that are alike: it looks neither at the meters nor at how its
node is made. -/
def Stage.Blind (stage : Stage) : Prop :=
  ∀ next next', Next.Alike next next' → ∀ s draft, (stage next s draft).Alike (stage next' s draft)

/-- Called with a request that its node accepts, the stage runs the node with such requests only:
what the node would do with others makes no difference. -/
def Stage.Orderly (stage : Stage) : Prop :=
  ∀ (next next' : Next) (s : RequestState) (draft : Draft), next.accepts = next'.accepts →
    next.accepts s.method s.remaining = true →
    (∀ s' draft', next.accepts s'.method s'.remaining = true →
      next.run s' draft' = next'.run s' draft') →
    stage next s draft = stage next' s draft

namespace Layer

def Blind : Layer → Prop
  | .custom stage => stage.Blind
  | _ => True

def Orderly : Layer → Prop
  | .custom stage => stage.Orderly
  | _ => True

end Layer

namespace RouteTree

/-- No handler of the tree depends on a meter, and no stage on a meter or on how its node is
made. -/
def Blind : RouteTree → Prop :=
  Everywhere (fun e => ∀ s draft, (e.handler s draft).IgnoresMeters) Layer.Blind

def Orderly : RouteTree → Prop :=
  Everywhere (fun _ => True) Layer.Orderly

end RouteTree

/-- What a stage can do with a node: ask what it accepts, run it any number of times, send
responses, and go on as the answers are. -/
inductive Script where
  | done (result : Except RouteError Bool)
  | crash (c : Crash)
  | ask (method : Method) (path : String) (next : Bool → Script)
  | run (s : RequestState) (draft : Draft) (next : Except Crash (Except RouteError Bool) → Script)
  | send (r : Response) (next : Except ResponseError Unit → Script)
  | committed (next : Option Nat → Script)

namespace Script

def play (node : Next) : Script → Handled
  | .done result => .done result
  | .crash c => .crash c
  | .ask method path next => play node (next (node.accepts method path))
  | .run s draft next => (node.run s draft).attempt.bind fun result => play node (next result)
  | .send r next => .send r fun answer => play node (next answer)
  | .committed next => .committed fun status => play node (next status)

def stage (script : RequestState → Draft → Script) : Stage :=
  fun node s draft => (script s draft).play node

/-- With a node that accepts these requests, the script runs it with no others. -/
def Heeds (accepts : Method → String → Bool) : Script → Prop
  | .done _ => True
  | .crash _ => True
  | .ask method path next => Heeds accepts (next (accepts method path))
  | .run s _ next => accepts s.method s.remaining = true ∧ ∀ result, Heeds accepts (next result)
  | .send _ next => ∀ answer, Heeds accepts (next answer)
  | .committed next => ∀ status, Heeds accepts (next status)

variable {next next' : Next}

theorem play_alike (alike : next.Alike next') (script : Script) :
    (script.play next).Alike (script.play next') := by
  induction script with
  | done result => exact .done result
  | crash c => exact .crash c
  | ask method path after ih =>
    rw [play, play, alike.accepts]
    exact ih _
  | run s draft after ih => exact (alike.run s draft).attempt.bind ih
  | send r after ih => exact .send r ih
  | committed after ih => exact .committed ih

theorem play_eq (accepts : next.accepts = next'.accepts)
    (below : ∀ s draft, next.accepts s.method s.remaining = true →
      next.run s draft = next'.run s draft) {script : Script}
    (heeds : script.Heeds next.accepts) : script.play next = script.play next' := by
  induction script with
  | done result => rfl
  | crash c => rfl
  | ask method path after ih =>
    rw [play, play, ← accepts]
    exact ih _ heeds
  | run s draft after ih =>
    have further : (fun result => (after result).play next) =
        fun result => (after result).play next' := by
      funext result
      exact ih result (heeds.2 result)
    rw [play, play, below s draft heeds.1, further]
  | send r after ih =>
    rw [play, play]
    congr 1
    funext answer
    exact ih answer (heeds answer)
  | committed after ih =>
    rw [play, play]
    congr 1
    funext status
    exact ih status (heeds status)

variable {script : RequestState → Draft → Script}

/-- Every stage that plays a script is blind. -/
theorem stage_blind : (stage script).Blind := by
  intro next next' alike s draft
  exact play_alike alike (script s draft)

/-- A stage is orderly if it runs its node with the request it got, with another one at the same
place, or with one that it has asked about. -/
theorem stage_orderly (heeds : ∀ accepts s draft, accepts s.method s.remaining = true →
    (script s draft).Heeds accepts) : (stage script).Orderly := by
  intro next next' s draft accepts accepted below
  exact play_eq accepts below (heeds next.accepts s draft accepted)

end Script

namespace Layer

variable {l : Layer} {next next' : Next} {s : RequestState} {draft : Draft}

theorem call_alike (blind : l.Blind) (alike : next.Alike next') (s : RequestState)
    (draft : Draft) : (l.call next s draft).Alike (l.call next' s draft) := by
  cases l with
  | notFound =>
    show (runNotFound next s draft).Alike (runNotFound next' s draft)
    rw [runNotFound, runNotFound, alike.accepts]
    split
    · exact alike.run s draft
    · exact (answer_ignoresMeters _).alike
  | serverFault =>
    refine (alike.run s draft).attempt.bind fun result => ?_
    cases outcomeOf result with
    | ok handled => exact .done _
    | error e => exact (sendFault_ignoresMeters draft).alike.bind fun _ => .done _
  | profile => exact alike.run s draft
  | tracing => exact alike.run s draft
  | metrics meter => exact (alike.run s draft).bind fun result => .note _ (.done result)
  | jsonBody schema policy =>
    show (runJsonBody schema policy next s draft).Alike (runJsonBody schema policy next' s draft)
    unfold runJsonBody
    split
    · exact alike.run _ draft
    · exact (answer_ignoresMeters _).alike
  | cookies schema => exact alike.run _ draft
  | custom stage => exact blind next next' alike s draft

/-- A layer that watches runs like its node. -/
theorem Watches.call_alike (watches : l.Watches) {c : Handled} (alike : c.Alike (next.run s draft)) :
    c.Alike (l.call next s draft) := by
  cases watches with
  | profile => exact alike
  | tracing => exact alike
  | metrics meter => exact alike.counted meter callOutcome

/-- Called with a request that its node accepts, an orderly layer cannot tell two nodes apart that
accept alike and run alike where they accept. -/
theorem call_eq_of_accepts (orderly : l.Orderly) (accepts : next.accepts = next'.accepts)
    (accepted : next.accepts s.method s.remaining = true)
    (below : ∀ s' draft', next.accepts s'.method s'.remaining = true →
      next.run s' draft' = next'.run s' draft') :
    l.call next s draft = l.call next' s draft := by
  have provided : l.Standard → l.call next s draft = l.call next' s draft := by
    intro standard
    refine call_congr standard accepts fun s' passed => below s' draft ?_
    obtain ⟨request, remaining⟩ := pass_frame passed
    rw [RequestState.method_congr request, remaining]
    exact accepted
  cases l with
  | custom stage => exact orderly next next' s draft accepts accepted below
  | notFound | serverFault | profile | tracing | metrics _ | jsonBody _ _ | cookies _ =>
    exact provided trivial

end Layer

namespace RouteTree

variable {t t' : RouteTree}

/-- With layers that watch the tree runs like the tree without them. -/
theorem Inserted.invoke_alike (h : Inserted Layer.Watches t t') (blind : t.Blind)
    (s : RequestState) (draft : Draft) : (t.invoke s draft).Alike (t'.invoke s draft) := by
  induction h generalizing s draft with
  | endpoint e => exact (Endpoint.invoke_ignoresMeters blind s draft).alike
  | bind pattern below ih =>
    rw [invoke, invoke]
    cases bindPattern pattern s with
    | none => exact .done _
    | some s' => exact ih blind s' draft
  | groupNil => exact .done _
  | groupCons first others ih ihs =>
    rw [invoke_group_cons, invoke_group_cons, first.accepts_eq]
    split
    · exact ih blind.1 s draft
    · exact ihs blind.2 s draft
  | null => exact .done _
  | layer l below ih =>
    refine Layer.call_alike blind.1 ⟨?_, fun s' draft' => ih blind.2 s' draft'⟩ s draft
    funext method path
    exact (below.accepts_eq method path.toList).symm
  | insert new below ih => exact new.call_alike (ih blind s draft)

/-- With layers that answer 404 the tree runs a request that it accepts as it does without them. -/
theorem Inserted.invoke_eq_of_accepts (h : Inserted (· = .notFound) t t') (orderly : t.Orderly)
    {s : RequestState} (accepted : t.accepts s.method s.remaining.toList = true) (draft : Draft) :
    t'.invoke s draft = t.invoke s draft := by
  induction h generalizing s draft with
  | endpoint e => rfl
  | bind pattern below ih =>
    obtain ⟨s', bound, further⟩ := accepts_bind_iff.1 accepted
    rw [invoke, invoke, bound]
    exact ih orderly further draft
  | groupNil => rfl
  | @groupCons t t' rest rest' first others ih ihs =>
    rw [accepts_group_cons, Bool.or_eq_true] at accepted
    rw [invoke_group_cons, invoke_group_cons, first.accepts_eq]
    by_cases own : t.accepts s.method s.remaining.toList = true
    · rw [if_pos own, if_pos own]
      exact ih orderly.1 own draft
    · rw [if_neg own, if_neg own]
      exact ihs orderly.2 (accepted.resolve_left own) draft
  | null => rfl
  | @layer l nested nested' below ih =>
    have same : ∀ method path, nested'.accepts method path = nested.accepts method path :=
      below.accepts_eq
    refine Layer.call_eq_of_accepts orderly.1 (by simp only [same]) ?_ fun s' draft' further => ?_
    · exact (same _ _).trans accepted
    · exact ih orderly.2 ((same _ _).symm.trans further) draft'
  | @insert l t t' new below ih =>
    subst new
    have passes : t'.accepts s.method s.remaining.toList = true :=
      (below.accepts_eq _ _).trans accepted
    rw [invoke, Layer.call_notFound_of_accepts passes]
    exact ih orderly accepted draft

/-- Below a pattern or a group such layers make no difference to a tree that is asked about every
request: the layer above that answers unmatched requests keeps them from the others. -/
theorem InsertedBelow.invoke_eq (h : InsertedBelow (· = .notFound) t t') (orderly : t.Orderly)
    (answers : t.answersUnmatched = true) : t'.invoke = t.invoke := by
  induction h with
  | endpoint e | null => rfl
  | bind pattern below | group below => cases answers
  | @layer l nested nested' below ih =>
    have same : ∀ method path, nested'.accepts method path = nested.accepts method path :=
      below.inserted.accepts_eq
    funext s draft
    by_cases accepted : nested.accepts s.method s.remaining.toList = true
    · exact (below.inserted.layer l).invoke_eq_of_accepts orderly accepted draft
    · rw [answersUnmatched, Bool.or_eq_true] at answers
      rw [invoke, invoke]
      by_cases deeper : nested.answersUnmatched = true
      · simp only [same, ih orderly.2 deeper]
      · -- the layer itself answers, and does not ask its node
        have here := Layer.eq_notFound_of_answersUnmatched (answers.resolve_right deeper)
        have refused : ¬ nested'.accepts s.method s.remaining.toList = true := by
          rw [same]
          exact accepted
        subst here
        rw [Layer.call_notFound_of_refuses refused, Layer.call_notFound_of_refuses accepted]

end RouteTree

end RequestRouter
