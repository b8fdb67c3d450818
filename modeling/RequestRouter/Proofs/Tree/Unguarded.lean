import RequestRouter.Proofs.Tree.Selection

/-!
# Unguarded nodes

A node is to be invoked only with a request that it accepts. A group that is invoked with another
one finds no member for it and fails. A pattern looks no further than its own match: it hands the
request on to the node behind it, and an endpoint or an empty node there does not look at all.
-/

namespace RequestRouter.RouteTree

def Bare : RouteTree → Prop :=
  Everywhere (fun _ => True) fun _ => False

/-- Where the patterns at the top of the tree bring a request: to the node behind them, or to the
first of them that does not match. -/
def descend : RouteTree → RequestState → RouteTree × RequestState
  | .bind pattern nested, s =>
    match bindPattern pattern s with
    | some s' => descend nested s'
    | none => (.bind pattern nested, s)
  | t, s => (t, s)

theorem descend_bind_of_some {pattern : String} {s s' : RequestState}
    (bound : bindPattern pattern s = some s') (nested : RouteTree) :
    (RouteTree.bind pattern nested).descend s = nested.descend s' := by
  simp only [descend, bound]

theorem descend_bind_of_none {pattern : String} {s : RequestState}
    (bound : bindPattern pattern s = none) (nested : RouteTree) :
    (RouteTree.bind pattern nested).descend s = (.bind pattern nested, s) := by
  simp only [descend, bound]

/-- Invoking a tree is invoking the node to which the request descends. -/
theorem invoke_descend (t : RouteTree) (s : RequestState) (draft : Draft) :
    t.invoke s draft = (t.descend s).1.invoke (t.descend s).2 draft := by
  induction t using RouteTree.induct generalizing s with
  | endpoint _ | group _ _ | null | layer _ _ _ => rfl
  | bind pattern nested ih =>
    cases bound : bindPattern pattern s with
    | none => rw [descend_bind_of_none bound]
    | some s' =>
      rw [descend_bind_of_some bound, ← ih s', invoke, bound]

/-- A pattern to which a request descends does not match it. -/
theorem bindPattern_of_descend {t nested : RouteTree} {s : RequestState} {pattern : String}
    (h : (t.descend s).1 = .bind pattern nested) :
    bindPattern pattern (t.descend s).2 = none := by
  induction t using RouteTree.induct generalizing s with
  | endpoint _ | group _ _ | null | layer _ _ _ => cases h
  | bind own below ih =>
    cases bound : bindPattern own s with
    | none =>
      rw [descend_bind_of_none bound] at h ⊢
      cases h
      exact bound
    | some s' =>
      rw [descend_bind_of_some bound] at h ⊢
      exact ih h

/-- The node to which a request descends refuses what the tree refuses. -/
theorem refused_descend {t : RouteTree} {s : RequestState}
    (refused : t.accepts s.method s.remaining.toList = false) :
    (t.descend s).1.accepts (t.descend s).2.method (t.descend s).2.remaining.toList = false := by
  induction t using RouteTree.induct generalizing s with
  | endpoint _ | group _ _ | null | layer _ _ _ => exact refused
  | bind pattern nested ih =>
    cases bound : bindPattern pattern s with
    | none =>
      rw [descend_bind_of_none bound]
      exact refused
    | some s' =>
      rw [descend_bind_of_some bound]
      refine ih (Bool.eq_false_iff.2 fun accepted => ?_)
      exact absurd (accepts_bind_iff.2 ⟨s', bound, accepted⟩) (by simp [refused])

theorem Bare.descend {t : RouteTree} (bare : t.Bare) (s : RequestState) :
    (t.descend s).1.Bare := by
  induction t using RouteTree.induct generalizing s with
  | endpoint _ | group _ _ | null | layer _ _ _ => exact bare
  | bind pattern nested ih =>
    cases bound : bindPattern pattern s with
    | none =>
      rw [descend_bind_of_none bound]
      exact bare
    | some s' =>
      rw [descend_bind_of_some bound]
      exact ih bare s'

/-- A group fails for a request that no member accepts. -/
theorem invoke_group_of_refused {members : List RouteTree} {s : RequestState}
    (refused : (RouteTree.group members).accepts s.method s.remaining.toList = false)
    (draft : Draft) : (RouteTree.group members).invoke s draft = unmatched s := by
  rw [accepts, acceptsAny_eq_any] at refused
  have none : members.find? (fun t => t.accepts s.method s.remaining.toList) = none :=
    List.find?_eq_none.2 fun t listed => by simpa using List.any_eq_false.1 refused t listed
  rw [invoke, invokeFirst_eq_find, none]

/-- Invoked with the request, the node fails as unmatched. It enters no handler, offers nothing and
counts nothing: the log stays as it is. -/
def FailsUnmatched (t : RouteTree) (s : RequestState) (draft : Draft) : Prop :=
  ∃ path, ∀ sink log, (t.invoke s draft).run sink log = (.ok (.error (.unmatched path)), log)

/-- An endpoint never fails so: it enters its handler, or its parameters do not convert. -/
theorem not_failsUnmatched_endpoint (e : Endpoint) (s : RequestState) (draft : Draft) :
    ¬ (RouteTree.endpoint e).FailsUnmatched s draft := by
  rintro ⟨path, fails⟩
  have ended : (e.invoke s draft).run .memory {} = (.ok (.error (.unmatched path)), {}) :=
    fails .memory {}
  have enters : [] = [] ++ e.entered s draft := by
    have visits := e.invoke_enters s draft .memory {}
    rw [ended] at visits
    exact visits
  unfold Endpoint.invoke at ended
  unfold Endpoint.entered at enters
  cases prepared : Endpoint.prepare e.declares s with
  | error cause =>
    rw [prepared] at ended
    cases ended
  | ok s' => simp [prepared] at enters

/-- What a tree without layers does with a request that it does not accept. It fails as unmatched
if, and only if, the request descends to a pattern that does not match or to a group; so a group
always does. If the request descends to an endpoint, that handler is entered, whatever its method
and however much of the path is left. If it descends to an empty node, it counts as not handled,
without an error. -/
theorem invoke_unguarded {t : RouteTree} (bare : t.Bare) {s : RequestState}
    (refused : t.accepts s.method s.remaining.toList = false) (draft : Draft) :
    (t.FailsUnmatched s draft ↔
      (∃ pattern nested, (t.descend s).1 = .bind pattern nested) ∨
        ∃ members, (t.descend s).1 = .group members) ∧
    (∀ members, t = .group members → t.FailsUnmatched s draft) ∧
    (∀ e, (t.descend s).1 = .endpoint e →
      (t.invoke s draft).Enters (e.entered (t.descend s).2 draft)) ∧
    ((t.descend s).1 = .null →
      ∀ sink log, (t.invoke s draft).run sink log = (.ok (.ok false), log)) := by
  have bareThere := bare.descend s
  have refusedThere := refused_descend refused
  have unmatchedThere (h : t.invoke s draft = unmatched (t.descend s).2) :
      t.FailsUnmatched s draft :=
    ⟨_, fun sink log => by rw [h]; rfl⟩
  refine ⟨⟨fun fails => ?_, ?_⟩, ?_, fun e there => ?_, fun there sink log => ?_⟩
  · cases there : (t.descend s).1 with
    | bind pattern nested => exact Or.inl ⟨_, _, rfl⟩
    | group members => exact Or.inr ⟨_, rfl⟩
    | endpoint e =>
      obtain ⟨path, ended⟩ := fails
      rw [invoke_descend, there] at ended
      exact absurd ⟨path, ended⟩ (not_failsUnmatched_endpoint e _ draft)
    | null =>
      obtain ⟨path, ended⟩ := fails
      rw [invoke_descend, there] at ended
      cases ended .memory {}
    | layer l nested =>
      rw [there] at bareThere
      exact bareThere.1.elim
  · rintro (⟨pattern, nested, there⟩ | ⟨members, there⟩)
    · refine unmatchedThere ?_
      rw [invoke_descend, there, invoke, bindPattern_of_descend there]
    · rw [there] at refusedThere
      refine unmatchedThere ?_
      rw [invoke_descend, there, invoke_group_of_refused refusedThere]
  · rintro members rfl
    exact unmatchedThere (invoke_group_of_refused refused draft)
  · rw [invoke_descend, there]
    exact e.invoke_enters _ draft
  · rw [invoke_descend, there]
    rfl

def greeting : Endpoint :=
  .ofHandler .get fun _ draft => respond (draft.completeText "here")

theorem invoke_unguarded_group :
    let t : RouteTree := .bind "/a" (.group [.bind "/b" (.endpoint greeting), .null])
    let s := RequestState.start ⟨.get, "/a/c", [], []⟩ default
    t.Bare ∧ t.accepts s.method s.remaining.toList = false ∧
      (∃ members, (t.descend s).1 = .group members) ∧ t.FailsUnmatched s .fresh := by
  intro t s
  have bare : t.Bare := ⟨trivial, trivial, trivial⟩
  have refused : t.accepts s.method s.remaining.toList = false := by decide +kernel
  have cut : Pattern.leftOf "/a" s.remaining = some "/c" := by decide +kernel
  obtain ⟨s', bound, -, -⟩ := exists_bindPattern cut
  have there : ∃ members, (t.descend s).1 = .group members :=
    ⟨_, congrArg Prod.fst (descend_bind_of_some bound _)⟩
  exact ⟨bare, refused, there, (invoke_unguarded bare refused .fresh).1.2 (Or.inr there)⟩

/-- A pattern that matches hands a request on that the endpoint behind it does not accept: the
handler runs and answers. Before an empty node the request just counts as not handled. -/
theorem unguarded_pattern_runs_handler :
    let t : RouteTree := .bind "/a" (.endpoint greeting)
    let empty : RouteTree := .bind "/a" .null
    let s := RequestState.start ⟨.post, "/a/b", [], []⟩ default
    t.Bare ∧ t.accepts s.method s.remaining.toList = false ∧ ¬ t.FailsUnmatched s .fresh ∧
      ((t.invoke s .fresh).run .memory {}).2.delivered.map Response.body = ["here"] ∧
      empty.Bare ∧ empty.accepts s.method s.remaining.toList = false ∧
      (empty.invoke s .fresh).run .memory {} = (.ok (.ok false), {}) := by
  intro t empty s
  have entered : ((t.invoke s .fresh).run .memory {}).2.visits.length = 1 := by decide +kernel
  have cut : Pattern.leftOf "/a" s.remaining = some "/b" := by decide +kernel
  obtain ⟨s', bound, -, -⟩ := exists_bindPattern cut
  refine ⟨trivial, by decide +kernel, ?_, by decide +kernel, trivial, by decide +kernel, ?_⟩
  · rintro ⟨path, fails⟩
    rw [fails] at entered
    cases entered
  · rw [invoke_descend, descend_bind_of_some bound]
    rfl

end RequestRouter.RouteTree
