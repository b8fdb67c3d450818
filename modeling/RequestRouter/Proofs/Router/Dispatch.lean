import RequestRouter.Proofs.Exchange.Course
import RequestRouter.Proofs.Tree.Selection
import RequestRouter.Router.Basic

/-!
# Dispatches

The three things that a dispatch can be: a rejection at the gate, nothing at all for a request
that the tree neither accepts nor answers, or a contained run of the tree.
-/

namespace RequestRouter

namespace Router

/-- The gate lets the request through to the tree. -/
def Admits (r : Router) (request : Request) : Prop :=
  isLegalTarget request.target.toList = true ∧ request.body.length ≤ r.settings.maxBodyBytes

def entry (r : Router) (fresh : RequestId) (request : Request) : RequestState :=
  (RequestState.start request (requestId r.settings fresh request)).withPolicy
    r.settings.conversionPolicy

@[simp] theorem entry_method (r : Router) (fresh : RequestId) (request : Request) :
    (r.entry fresh request).method = request.method := rfl

@[simp] theorem entry_remaining (r : Router) (fresh : RequestId) (request : Request) :
    (r.entry fresh request).remaining = request.path := rfl

def firstDraft (r : Router) (fresh : RequestId) (request : Request) : Draft :=
  Draft.fresh.withHeader r.settings.requestIdHeader (requestId r.settings fresh request).text

/-- A contained run of the tree, which ends with the status that claimed the exchange. -/
def runTree (r : Router) (fresh : RequestId) (request : Request) : Course Event DispatchOutcome :=
  (contain (r.firstDraft fresh request)
      (r.root.invoke (r.entry fresh request) (r.firstDraft fresh request))).bind fun handled =>
    .committed fun status => .done ⟨handled, status, requestId r.settings fresh request⟩

/-- The tree accepts the request or answers it all the same. -/
def Asks (r : Router) (request : Request) : Prop :=
  r.root.accepts request.method request.path.toList = true ∨ r.root.answersUnmatched = true

theorem dispatch_cases (r : Router) (fresh : RequestId) (request : Request) :
    (¬ r.Admits request ∧ ∃ status body, r.dispatch fresh request =
      reject (r.firstDraft fresh request) status body (requestId r.settings fresh request)) ∨
    (r.Admits request ∧ ¬ r.Asks request ∧
      r.dispatch fresh request = .done ⟨false, none, requestId r.settings fresh request⟩) ∨
    (r.Admits request ∧ r.Asks request ∧ r.dispatch fresh request = r.runTree fresh request) := by
  unfold dispatch
  dsimp only
  split
  · rename_i illegal
    refine Or.inl ⟨fun admits => ?_, _, _, rfl⟩
    simp [admits.1] at illegal
  · rename_i legal
    split
    · rename_i long
      exact Or.inl ⟨fun admits => absurd admits.2 (Nat.not_le.2 long), _, _, rfl⟩
    · rename_i short
      have admits : r.Admits request := ⟨by simpa using legal, Nat.not_lt.1 short⟩
      split
      · rename_i idle
        refine Or.inr (Or.inl ⟨admits, ?_, rfl⟩)
        rw [Bool.and_eq_true, Bool.not_eq_true', Bool.not_eq_true'] at idle
        rintro (accepted | answers)
        · exact absurd (accepted.symm.trans idle.1) (by simp)
        · exact absurd (answers.symm.trans idle.2) (by simp)
      · rename_i busy
        refine Or.inr (Or.inr ⟨admits, ?_, rfl⟩)
        rw [Bool.and_eq_true, Bool.not_eq_true', Bool.not_eq_true', not_and_or,
          Bool.not_eq_false, Bool.not_eq_false] at busy
        exact busy

/-- The gate does not look at the tree. -/
theorem dispatch_of_not_admits {r r' : Router} (settings : r'.settings = r.settings)
    {request : Request} (stopped : ¬ r.Admits request) (fresh : RequestId) :
    r'.dispatch fresh request = r.dispatch fresh request := by
  unfold dispatch
  dsimp only
  rw [settings]
  split
  · rfl
  · rename_i legal
    split
    · rfl
    · rename_i short
      have admits : r.Admits request := ⟨by simpa using legal, Nat.not_lt.1 short⟩
      exact absurd admits stopped

theorem dispatch_of_idle {r : Router} {request : Request} (admits : r.Admits request)
    (idle : ¬ r.Asks request) (fresh : RequestId) :
    r.dispatch fresh request = .done ⟨false, none, requestId r.settings fresh request⟩ := by
  rcases r.dispatch_cases fresh request with ⟨stopped, -⟩ | ⟨-, -, quiet⟩ | ⟨-, asks, -⟩
  · exact absurd admits stopped
  · exact quiet
  · exact absurd asks idle

theorem dispatch_of_asks {r : Router} {request : Request} (admits : r.Admits request)
    (asks : r.Asks request) (fresh : RequestId) :
    r.dispatch fresh request = r.runTree fresh request := by
  rcases r.dispatch_cases fresh request with ⟨stopped, -⟩ | ⟨-, idle, -⟩ | ⟨-, -, run⟩
  · exact absurd admits stopped
  · exact absurd asks idle
  · exact run

/-- A rejection offers its response and reports the status that the sink took. -/
theorem run_reject (draft : Draft) (status : Nat) (body : String) (id : RequestId) (sink : Sink)
    {l : Log} (free : l.committed = none) :
    (reject draft status body id).run sink l =
      let response := (draft.withStatus status).completeText body
      (.ok ⟨true, if sink.takes l.offered response then some status else none, id⟩,
        { l with
          committed := some status
          offered := l.offered ++ [response]
          delivered := l.delivered ++ if sink.takes l.offered response then [response] else [] }) := by
  dsimp only
  unfold Sink.takes reject
  rw [Course.run, Log.send, free]
  cases sink l.offered ((draft.withStatus status).completeText body) with
  | ok _ => rfl
  | error reason => simp [Except.isOk, Except.toBool, Course.run]; rfl

theorem reject_enters (draft : Draft) (status : Nat) (body : String) (id : RequestId) :
    (reject draft status body id).Enters [] := by
  refine Course.send_enters fun reply => ?_
  cases reply <;> exact Course.done_enters _

theorem contain_enters {node : Handled} {visits : List Visit} (h : node.Enters visits)
    (draft : Draft) : (contain draft node).Enters visits := by
  refine h.attempt.bind fun result => ?_
  cases Layer.outcomeOf result with
  | ok handled => exact Course.done_enters handled
  | error e => exact (Layer.sendFault_enters draft).bind fun _ => Course.done_enters false

theorem runTree_enters {r : Router} {fresh : RequestId} {request : Request} {visits : List Visit}
    (h : (r.root.invoke (r.entry fresh request) (r.firstDraft fresh request)).Enters visits) :
    (r.runTree fresh request).Enters visits :=
  (contain_enters h _).bind fun _ => Course.committed_enters fun _ => Course.done_enters _

/-- What a dispatch enters: the first accepting leaf of a request that the gate lets through. -/
theorem dispatch_enters {r : Router} (standard : r.root.Standard) (fresh : RequestId)
    {request : Request} {leaf : Leaf} (admits : r.Admits request)
    (first : r.root.firstLeaf request.method request.path = some leaf) :
    (r.dispatch fresh request).Enters
      (leaf.entered (r.entry fresh request) (r.firstDraft fresh request)) := by
  have accepted : r.Asks request := Or.inl (RouteTree.accepts_of_firstLeaf first)
  rcases r.dispatch_cases fresh request with ⟨refused, -⟩ | ⟨-, idle, -⟩ | ⟨-, -, run⟩
  · exact absurd admits refused
  · exact absurd accepted idle
  · rw [run]
    rw [← r.entry_method fresh, ← r.entry_remaining fresh] at first
    exact runTree_enters (RouteTree.invoke_enters standard first _)

theorem dispatch_enters_of_not_admits {r : Router} (fresh : RequestId) {request : Request}
    (h : ¬ r.Admits request) : (r.dispatch fresh request).Enters [] := by
  rcases r.dispatch_cases fresh request with ⟨-, status, body, rejected⟩ | ⟨admits, -⟩ | ⟨admits, -⟩
  · rw [rejected]
    exact reject_enters _ _ _ _
  · exact absurd admits h
  · exact absurd admits h

theorem dispatch_enters_of_no_leaf {r : Router} (standard : r.root.Standard) (fresh : RequestId)
    {request : Request} (h : r.root.firstLeaf request.method request.path = none) :
    (r.dispatch fresh request).Enters [] := by
  have refused := RouteTree.accepts_eq_false_of_firstLeaf h
  rcases r.dispatch_cases fresh request with ⟨stopped, -⟩ | ⟨-, -, idle⟩ | ⟨-, asked, run⟩
  · exact dispatch_enters_of_not_admits fresh stopped
  · rw [idle]
    exact Course.done_enters _
  · have answers : r.root.answersUnmatched = true :=
      asked.resolve_left (by rw [refused]; simp)
    rw [run]
    rw [← r.entry_method fresh, ← r.entry_remaining fresh] at refused
    exact runTree_enters (RouteTree.invoke_enters_none standard refused answers _)

end Router

end RequestRouter
