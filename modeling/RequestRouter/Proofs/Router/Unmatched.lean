import RequestRouter.Proofs.Router.OneResponse
import RequestRouter.Proofs.Tree.Unmatched

/-!
# Requests that the router does not accept

A router whose tree does not answer unmatched requests leaves them alone. One whose tree does
answers them with one response, and no node is invoked with a request that it does not accept.
-/

namespace RequestRouter.Router

theorem contain_run_of_handled {node : Handled} {sink : Sink} {log : Log} {handled : Bool}
    (h : (node.run sink log).1 = .ok (.ok handled)) (draft : Draft) :
    (contain draft node).run sink log = (.ok handled, (node.run sink log).2) := by
  show (node.attempt.bind _).run sink log = _
  rw [Course.run_bind, Course.run_attempt, h]
  rfl

/-- A tree that answers is heard through the containment. -/
theorem runTree_of_answers {r : Router} {fresh : RequestId} {request : Request}
    {response : Response}
    (answers :
      (r.root.invoke (r.entry fresh request) (r.firstDraft fresh request)).Answers response)
    {sink : Sink} (takesAll : sink.TakesAll) {log : Log} (free : log.committed = none) :
    ((r.runTree fresh request).run sink log).1 =
        .ok ⟨true, some response.status, requestId r.settings fresh request⟩ ∧
      ((r.runTree fresh request).run sink log).2.Standing (some response.status)
        (log.offered ++ [response]) (log.delivered ++ [response]) := by
  obtain ⟨ended, standing⟩ := answers sink log free (takesAll.takes _ _)
  have contained := contain_run_of_handled ended (r.firstDraft fresh request)
  rw [runTree, Course.run_bind, contained]
  refine ⟨?_, standing⟩
  show Except.ok (DispatchOutcome.mk true _ _) = _
  rw [standing.committed_eq]

/-- Unmatched requests. The layers at the top of the tree decide about a request that the gate lets
through and the tree does not accept. If none of them answers 404, the tree is not invoked: nothing
is sent, and the request counts as not handled. If one does, exactly one response is sent, and the
request counts as handled: of the body parsers above the outermost such layer, the first that
rejects the body says why in a 400; if none does, the response is a 404 with the path. No pattern
and no group is invoked with a request that it does not accept. -/
theorem serve_unmatched {r : Router} (standard : ∀ l ∈ r.root.stack, l.Standard)
    {request : Request} (admits : r.Admits request)
    (refused : r.root.accepts request.method request.path.toList = false) {sink : Sink}
    (takesAll : sink.TakesAll) (fresh : RequestId) (log : Log) :
    (.notFound ∉ r.root.stack →
      r.dispatch fresh request = .done ⟨false, none, requestId r.settings fresh request⟩ ∧
      r.serve sink fresh request log =
        (.ok ⟨false, none, requestId r.settings fresh request⟩, log.nextExchange)) ∧
    (.notFound ∈ r.root.stack →
      (∃ above below response after, r.root.stack = above ++ .notFound :: below ∧
        .notFound ∉ above ∧
        r.serve sink fresh request log =
          (.ok ⟨true, some response.status, requestId r.settings fresh request⟩, after) ∧
        after.offered = log.offered ++ [response] ∧
        after.delivered = log.delivered ++ [response] ∧
        (∀ outer schema policy inner reason, above = outer ++ .jsonBody schema policy :: inner →
          (∀ l ∈ outer, ¬ l.Rejects request.body) →
          Layer.readBody schema policy request.body = .error reason →
          response = ((r.firstDraft fresh request).withStatus 400).completeText reason) ∧
        ((∀ l ∈ above, ¬ l.Rejects request.body) →
          response = ((r.firstDraft fresh request).withStatus 404).complete
            ("Not found: " ++ request.path))) ∧
      ∀ miss, r.root.invokeOr miss (r.entry fresh request) (r.firstDraft fresh request) =
        r.root.invoke (r.entry fresh request) (r.firstDraft fresh request)) := by
  refine ⟨fun silent => ?_, fun answering => ?_⟩
  · have idle : ¬ r.Asks request := by
      rintro (accepted | answers)
      · exact absurd (accepted.symm.trans refused) (by simp)
      · exact silent (RouteTree.answersUnmatched_iff.1 answers)
    have quiet := dispatch_of_idle admits idle fresh
    refine ⟨quiet, ?_⟩
    rw [serve, quiet]
    rfl
  · have asks : r.Asks request := Or.inr (RouteTree.answersUnmatched_iff.2 answering)
    obtain ⟨above, below, stack, outermost⟩ := List.eq_append_cons_of_mem answering
    have provided : ∀ l ∈ above, l.Standard := by
      intro l listed
      refine standard l ?_
      rw [stack]
      exact List.mem_append_left _ listed
    rw [← r.entry_method fresh, ← r.entry_remaining fresh] at refused
    have answers := RouteTree.invoke_answers stack outermost provided refused
      (r.firstDraft fresh request)
    have free : log.nextExchange.committed = none := rfl
    obtain ⟨ended, standing⟩ := runTree_of_answers answers takesAll free
    rw [← dispatch_of_asks admits asks fresh] at ended standing
    refine ⟨⟨above, below, _, _, stack, outermost, Prod.ext ended rfl, standing.offered_eq,
      standing.delivered_eq, ?_, ?_⟩, fun miss => ?_⟩
    · rintro outer schema policy inner reason rfl accepted parsed
      have objects := Layer.objection_eq_some_iff.2 ⟨schema, policy, rfl, parsed⟩
      exact (Layer.refusal_append accepted _).trans (Layer.refusal_cons_of_objection objects _)
    · exact fun accepted => Layer.refusal_of_accepted accepted _
    · exact RouteTree.invokeOr_of_refused stack provided refused miss _

def pageRouter (layers : List Layer) : Router :=
  let page : RouteTree := .bind "/page" (.endpoint (.ofHandler .get fun _ _ => .done (.ok ())))
  ⟨layers.foldr .layer page, {}, []⟩

theorem stack_pageRouter (layers : List Layer) : (pageRouter layers).root.stack = layers :=
  (RouteTree.stack_foldr _ _).trans (List.append_nil _)

theorem serve_unmatched_page :
    let request : Request := ⟨.get, "/home?v=1", [], []⟩
    let parser (schema : Schema) : Layer := .jsonBody schema .strict
    let silent := pageRouter [.metrics "calls", parser .empty]
    let lenient := pageRouter [.metrics "calls", parser .empty, .notFound]
    let strict := pageRouter [.metrics "calls", parser (.single "n" .integer), .notFound]
    let exchange (r : Router) := r.serve .memory default request {}
    Sink.memory.TakesAll ∧
      (∀ r ∈ [silent, lenient, strict], (∀ l ∈ r.root.stack, l.Standard) ∧ r.Admits request ∧
        r.root.accepts request.method request.path.toList = false) ∧
      (.notFound ∉ silent.root.stack ∧ (exchange silent).1 = .ok ⟨false, none, default⟩) ∧
      (.notFound ∈ lenient.root.stack ∧ (exchange lenient).1 = .ok ⟨true, some 404, default⟩ ∧
        (exchange lenient).2.delivered.map Response.body = ["Not found: /home"]) ∧
      .notFound ∈ strict.root.stack ∧ (exchange strict).1 = .ok ⟨true, some 400, default⟩ := by
  intro request parser silent lenient strict exchange
  have takesAll : Sink.memory.TakesAll := fun _ _ => rfl
  have admits (layers : List Layer) : (pageRouter layers).Admits request :=
    ⟨by decide +kernel, Nat.zero_le _⟩
  have refused (layers : List Layer) :
      (pageRouter layers).root.accepts request.method request.path.toList = false := by
    rw [pageRouter, RouteTree.accepts_foldr]
    decide +kernel
  have standard : ∀ r ∈ [silent, lenient, strict], ∀ l ∈ r.root.stack, l.Standard := by
    simp [silent, lenient, strict, stack_pageRouter, parser, Layer.Standard]
  have turnedAway : ∀ r ∈ [silent, lenient, strict], (∀ l ∈ r.root.stack, l.Standard) ∧
      r.Admits request ∧ r.root.accepts request.method request.path.toList = false := by
    intro r listed
    refine ⟨standard r listed, ?_⟩
    simp only [List.mem_cons, List.not_mem_nil, or_false] at listed
    rcases listed with rfl | rfl | rfl <;> exact ⟨admits _, refused _⟩
  have noAnswer : .notFound ∉ silent.root.stack := by
    simp [silent, stack_pageRouter, parser]
  have answers : .notFound ∈ lenient.root.stack := by
    simp [lenient, stack_pageRouter]
  have answersToo : .notFound ∈ strict.root.stack := by
    simp [strict, stack_pageRouter]
  have counts : ¬ (Layer.metrics "calls").Rejects request.body := id
  have parses : ¬ (parser .empty).Rejects request.body :=
    Layer.objection_eq_none_iff.1 (by decide +kernel)
  have objects : ((parser (.single "n" .integer)).objection request.body).isSome = true := by
    decide +kernel
  obtain ⟨idle, -⟩ := serve_unmatched (standard silent (by simp)) (admits _) (refused _)
    takesAll default {}
  obtain ⟨-, answered⟩ := serve_unmatched (standard lenient (by simp)) (admits _) (refused _)
    takesAll default {}
  obtain ⟨-, rejected⟩ := serve_unmatched (standard strict (by simp)) (admits _) (refused _)
    takesAll default {}
  refine ⟨takesAll, turnedAway, ⟨noAnswer, congrArg Prod.fst (idle noAnswer).2⟩, ⟨answers, ?_⟩,
    answersToo, ?_⟩
  · obtain ⟨⟨above, below, response, after, stack, -, served, -, delivered, -, missing⟩, -⟩ :=
      answered answers
    have accepted : ∀ l ∈ lenient.root.stack, ¬ l.Rejects request.body := by
      simp only [lenient, stack_pageRouter, List.forall_mem_cons]
      exact ⟨counts, parses, id, nofun⟩
    rw [stack] at accepted
    obtain rfl := missing fun l listed => accepted l (List.mem_append_left _ listed)
    refine ⟨congrArg Prod.fst served, ?_⟩
    show (lenient.serve .memory default request {}).2.delivered.map Response.body = _
    rw [served, delivered]
    decide +kernel
  · obtain ⟨⟨above, below, response, after, stack, -, served, -, -, rejecting, -⟩, -⟩ :=
      rejected answersToo
    obtain ⟨reason, objection⟩ := Option.isSome_iff_exists.1 objects
    obtain ⟨schema, policy, own, parsed⟩ := Layer.objection_eq_some_iff.1 objection
    rw [stack_pageRouter] at stack
    rcases above with _ | ⟨first, _ | ⟨second, inner⟩⟩
    · cases stack
    · cases stack
    · obtain ⟨rfl, further⟩ := List.cons.inj stack
      obtain ⟨rfl, -⟩ := List.cons.inj further
      obtain rfl := rejecting [.metrics "calls"] schema policy inner reason (by rw [own]; rfl)
        (by simpa using counts) parsed
      exact congrArg Prod.fst served

end RequestRouter.Router
