import RequestRouter.Proofs.Router.Gate
import RequestRouter.Proofs.Router.Unmatched
import RequestRouter.Proofs.Tree.Settling

/-!
# What a router responds

Against a sink that takes all, a router that answers unmatched requests sends exactly one response
to each request: the gate's, a 404, or the one that the first accepting leaf settles on.
-/

namespace RequestRouter.Router

/-- One response reached the sink, which took it, and the outcome reports its status. -/
structure Responds (r : Router) (sink : Sink) (fresh : RequestId) (request : Request) (log : Log)
    (handled : Bool) (response : Response) : Prop where
  outcome_eq : (r.serve sink fresh request log).1 =
    .ok ⟨handled, some response.status, requestId r.settings fresh request⟩
  offered_eq : (r.serve sink fresh request log).2.offered = log.offered ++ [response]
  delivered_eq : (r.serve sink fresh request log).2.delivered = log.delivered ++ [response]

/-- A run of the tree that ends with a value is reported as it is, with the status that claimed the
exchange. -/
theorem runTree_of_handled {r : Router} {fresh : RequestId} {request : Request} {sink : Sink}
    {log after : Log} {handled : Bool}
    (ran : (r.root.invoke (r.entry fresh request) (r.firstDraft fresh request)).run sink log =
      (.ok (.ok handled), after)) :
    (r.runTree fresh request).run sink log =
      (.ok ⟨handled, after.committed, requestId r.settings fresh request⟩, after) := by
  have ended := congrArg Prod.fst ran
  rw [runTree, Course.run_bind, contain_run_of_handled ended, ran]
  rfl

variable {r : Router} {sink : Sink} {request : Request} (takesAll : sink.TakesAll)
  (fresh : RequestId) (log : Log)
include takesAll

theorem responds_of_stopped {response : Response}
    (stopped : Stopped r sink fresh request log response) :
    r.Responds sink fresh request log true response := by
  have taken := takesAll.takes log.offered response
  constructor <;> rw [stopped.served] <;> simp [taken]

theorem responds_of_illegal (illegal : isLegalTarget request.target.toList = false) :
    r.Responds sink fresh request log true
      (rejection r fresh request 400 illegalTargetBody) := by
  refine responds_of_stopped takesAll fresh log (stopped_of_dispatch (fun admits => ?_)
    (dispatch_of_illegal illegal fresh) sink log)
  exact absurd (admits.1.symm.trans illegal) (by simp)

theorem responds_of_long (legal : isLegalTarget request.target.toList = true)
    (long : r.settings.maxBodyBytes < request.body.length) :
    r.Responds sink fresh request log true
      (rejection r fresh request 413 payloadTooLargeBody) := by
  refine responds_of_stopped takesAll fresh log (stopped_of_dispatch (fun admits => ?_)
    (dispatch_of_long legal long fresh) sink log)
  exact absurd admits.2 (Nat.not_le.2 long)

variable (admits : r.Admits request)
include admits

/-- The 404 of a request that no leaf accepts. -/
theorem responds_of_refused {above below : List Layer}
    (stack : r.root.stack = above ++ .notFound :: below) (outermost : .notFound ∉ above)
    (standard : ∀ l ∈ above, l.Standard) (accepted : ∀ l ∈ above, ¬ l.Rejects request.body)
    (refused : r.root.accepts request.method request.path.toList = false) :
    r.Responds sink fresh request log true
      (((r.firstDraft fresh request).withStatus 404).complete
        ("Not found: " ++ request.path)) := by
  have answering : .notFound ∈ r.root.stack := by simp [stack]
  have asks : r.Asks request := Or.inr (RouteTree.answersUnmatched_iff.2 answering)
  rw [← r.entry_method fresh, ← r.entry_remaining fresh] at refused
  have answers := RouteTree.invoke_answers stack outermost standard refused
    (r.firstDraft fresh request)
  have free : log.nextExchange.committed = none := rfl
  obtain ⟨ended, standing⟩ := runTree_of_answers answers takesAll free
  rw [← dispatch_of_asks admits asks fresh] at ended standing
  have missing := Layer.refusal_of_accepted accepted (r.firstDraft fresh request)
  rw [show (r.entry fresh request).request = request from rfl, missing] at ended standing
  exact ⟨ended, standing.offered_eq, standing.delivered_eq⟩

/-- A request that a leaf accepts is answered as the first such leaf settles it. -/
theorem responds_of_settles (standard : r.root.Standard) {leaf : Leaf}
    (first : r.root.firstLeaf request.method request.path = some leaf)
    {ending : Except RouteError Bool × Option Nat}
    (settles : leaf.Settles (r.entry fresh request) (r.firstDraft fresh request) ending)
    {handled : Bool} {status : Nat} (mended : leaf.mended ending = (.ok handled, some status)) :
    ∃ response, response.status = status ∧
      r.Responds sink fresh request log handled response := by
  have asks : r.Asks request := Or.inl (RouteTree.accepts_of_firstLeaf first)
  rw [← r.entry_method fresh, ← r.entry_remaining fresh] at first
  have settled := RouteTree.invoke_settles standard first settles
  rw [mended] at settled
  obtain ⟨sent, same, ended, after⟩ := settled sink log.nextExchange takesAll rfl
  obtain ⟨response, rfl, rfl⟩ := Option.map_eq_some_iff.1 same
  have standing : Log.Standing _ _ _ _ := after
  rw [takesAll.takes, if_pos rfl] at standing
  have ran := runTree_of_handled (Prod.ext ended rfl)
  rw [← dispatch_of_asks admits asks fresh, standing.committed_eq] at ran
  have served : r.serve sink fresh request log = _ := ran
  refine ⟨response, rfl, ?_, ?_, ?_⟩ <;> rw [served]
  · exact standing.offered_eq
  · exact standing.delivered_eq

end RequestRouter.Router
