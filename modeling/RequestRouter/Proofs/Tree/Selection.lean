import RequestRouter.Proofs.Exchange.Course
import RequestRouter.Proofs.Tree.Leaf

/-!
# Selection of a leaf

A tree of standard layers that accepts a request runs its first leaf that does: the request is
carried through the patterns and layers above that leaf, its handler is entered once, and no other
one is. Only a body parser or the endpoint's own conversion can keep the request from the handler.
-/

namespace RequestRouter

theorem RequestState.method_congr {s s' : RequestState} (h : s'.request = s.request) :
    s'.method = s.method :=
  congrArg Request.method h

namespace Layer

/-- The layer parses bodies and finds fault with this one. -/
def Rejects (body : List UInt8) : Layer → Prop
  | .jsonBody schema policy => ∃ reason, readBody schema policy body = .error reason
  | _ => False

/-- The request as the layer hands it on, if it does. -/
def pass : Layer → RequestState → Option RequestState
  | .jsonBody schema policy, s =>
    match readBody schema policy s.request.body with
    | .ok c => some ((s.withBody (.structured c.record)).withExtensions c.extras)
    | .error _ => none
  | .cookies schema, s => some (attachCookies schema s)
  | _, s => some s

/-- A body parser hands on what it reads of a body that it can read. -/
theorem pass_jsonBody {schema : Schema} {policy : ConversionPolicy} {s s' : RequestState} :
    (jsonBody schema policy).pass s = some s' ↔
      ∃ c, readBody schema policy s.request.body = .ok c ∧
        (s.withBody (.structured c.record)).withExtensions c.extras = s' := by
  cases parsed : readBody schema policy s.request.body <;> simp [pass, parsed]

/-- All that a layer changes of a request. -/
theorem eq_of_pass {l : Layer} {s s' : RequestState} (h : l.pass s = some s') :
    ∃ body mixins extensions, s' = { s with body, mixins, extensions } := by
  cases l with
  | jsonBody schema policy =>
    obtain ⟨c, -, rfl⟩ := pass_jsonBody.1 h
    exact ⟨_, _, _, rfl⟩
  | cookies schema =>
    cases h
    cases schema <;> exact ⟨_, _, _, rfl⟩
  | notFound | serverFault | profile | tracing | metrics _ | custom _ =>
    cases h
    exact ⟨_, _, _, rfl⟩

/-- A layer leaves the request and its path as they are. -/
theorem pass_frame {l : Layer} {s s' : RequestState} (h : l.pass s = some s') :
    s'.request = s.request ∧ s'.remaining = s.remaining := by
  obtain ⟨body, mixins, extensions, rfl⟩ := eq_of_pass h
  exact ⟨rfl, rfl⟩

theorem pass_eq_none_iff {l : Layer} {s : RequestState} :
    l.pass s = none ↔ l.Rejects s.request.body := by
  cases l with
  | jsonBody schema policy =>
    cases parsed : readBody schema policy s.request.body <;> simp [pass, Rejects, parsed]
  | cookies _ | notFound | serverFault | profile | tracing | metrics _ | custom _ =>
    simp [pass, Rejects]

theorem exists_pass {l : Layer} {s : RequestState} (h : ¬ l.Rejects s.request.body) :
    ∃ s', l.pass s = some s' := by
  rw [← pass_eq_none_iff] at h
  exact Option.ne_none_iff_exists'.1 h

theorem eq_notFound_of_answersUnmatched {l : Layer} (h : l.answersUnmatched = true) :
    l = .notFound := by
  cases l with
  | notFound => rfl
  | serverFault | profile | tracing | metrics _ | jsonBody _ _ | cookies _ | custom _ => cases h

theorem call_notFound_of_accepts {next : Next} {s : RequestState} {draft : Draft}
    (accepted : next.accepts s.method s.remaining = true) :
    notFound.call next s draft = next.run s draft :=
  if_pos accepted

theorem call_notFound_of_refuses {next : Next} {s : RequestState} {draft : Draft}
    (refused : ¬ next.accepts s.method s.remaining = true) :
    notFound.call next s draft =
      answer ((draft.withStatus 404).complete ("Not found: " ++ s.path)) :=
  if_neg refused

theorem answer_enters (r : Response) : (answer r).Enters [] := by
  refine Course.send_enters fun reply => ?_
  cases reply <;> exact Course.done_enters _

theorem sendFault_enters (draft : Draft) : (sendFault draft).Enters [] := by
  refine Course.committed_enters fun status => ?_
  cases status with
  | some _ => exact Course.done_enters ()
  | none => exact Course.send_enters fun _ => Course.done_enters ()

/-- A standard layer enters the handlers that its node enters for the request it hands on, and
none if it rejects the request or turns it away. -/
theorem call_enters {l : Layer} (standard : l.Standard) {next : Next} {s : RequestState}
    {draft : Draft} {visits : List Visit}
    (below : ∀ s', l.pass s = some s' →
      (l.answersUnmatched = true → next.accepts s.method s.remaining = true) →
      (next.run s' draft).Enters visits)
    (rejected : l.pass s = none → visits = [])
    (turnedAway : l.answersUnmatched = true → next.accepts s.method s.remaining = false →
      visits = []) :
    (l.call next s draft).Enters visits := by
  cases l with
  | notFound =>
    show (runNotFound next s draft).Enters visits
    unfold runNotFound
    split
    · rename_i accepted
      exact below s rfl fun _ => accepted
    · rename_i refused
      rw [turnedAway rfl (Bool.eq_false_iff.2 refused)]
      exact answer_enters _
  | serverFault =>
    refine (below s rfl nofun).attempt.bind fun result => ?_
    cases outcomeOf result with
    | ok handled => exact Course.done_enters _
    | error e => exact (sendFault_enters draft).bind fun _ => Course.done_enters _
  | profile => exact below s rfl nofun
  | tracing => exact below s rfl nofun
  | metrics meter =>
    exact (below s rfl nofun).bind fun result =>
      Course.note_counted_enters meter _ (Course.done_enters result)
  | jsonBody schema policy =>
    show (runJsonBody schema policy next s draft).Enters visits
    unfold runJsonBody
    split
    · rename_i c parsed
      exact below _ (by simp only [pass, parsed]) nofun
    · rename_i reason parsed
      rw [rejected (by simp only [pass, parsed])]
      exact answer_enters _
  | cookies schema => exact below _ rfl nofun
  | custom stage => exact standard.elim

/-- A standard layer cannot tell two nodes apart that accept alike and run alike where it hands the
request on. -/
theorem call_congr {l : Layer} (standard : l.Standard) {next next' : Next} {s : RequestState}
    {draft : Draft} (accepts : next.accepts = next'.accepts)
    (below : ∀ s', l.pass s = some s' → next.run s' draft = next'.run s' draft) :
    l.call next s draft = l.call next' s draft := by
  cases l with
  | notFound => simp only [call, runNotFound, accepts, below s rfl]
  | serverFault => simp only [call, runServerFault, below s rfl]
  | profile => exact below s rfl
  | tracing => exact below s rfl
  | metrics meter => simp only [call, runMetrics, below s rfl]
  | jsonBody schema policy =>
    simp only [call, runJsonBody]
    split
    · rename_i c parsed
      exact below _ (by simp only [pass, parsed])
    · rfl
  | cookies schema => exact below _ rfl
  | custom stage => exact standard.elim

end Layer

namespace RouteTree

/-- What a layer does to the request makes no difference to whether a node accepts it. -/
theorem accepts_of_pass {l : Layer} {s s' : RequestState} (h : l.pass s = some s')
    (t : RouteTree) :
    t.accepts s'.method s'.remaining.toList = t.accepts s.method s.remaining.toList := by
  obtain ⟨request, remaining⟩ := Layer.pass_frame h
  rw [RequestState.method_congr request, remaining]

/-- A pattern leaves the path that its match leaves. -/
theorem remaining_bindPattern (source : String) (s : RequestState) :
    (bindPattern source s).map RequestState.remaining = Pattern.leftOf source s.remaining := by
  unfold bindPattern Pattern.leftOf
  cases Pattern.compile source with
  | error _ => rfl
  | ok p =>
    simp [Pattern.matchPrefix, Pattern.prefixLength, RequestState.consume, RequestState.withParams,
      Function.comp_def]

/-- All that a pattern changes of a request. -/
theorem eq_of_bindPattern {source : String} {s s' : RequestState}
    (h : bindPattern source s = some s') :
    ∃ captures n, s' = (s.withParams captures).consume n := by
  unfold bindPattern at h
  split at h
  · obtain ⟨m, -, rfl⟩ := Option.map_eq_some_iff.1 h
    exact ⟨_, _, rfl⟩
  · cases h

theorem request_of_bindPattern {source : String} {s s' : RequestState}
    (h : bindPattern source s = some s') : s'.request = s.request := by
  obtain ⟨captures, n, rfl⟩ := eq_of_bindPattern h
  rfl

theorem exists_bindPattern {source left : String} {s : RequestState}
    (h : Pattern.leftOf source s.remaining = some left) :
    ∃ s', bindPattern source s = some s' ∧ s'.request = s.request ∧ s'.remaining = left := by
  rw [← remaining_bindPattern, Option.map_eq_some_iff] at h
  obtain ⟨s', bound, rfl⟩ := h
  exact ⟨s', bound, request_of_bindPattern bound, rfl⟩

/-- A pattern in front of a node accepts what it hands on and the node accepts. -/
theorem accepts_bind_iff {pattern : String} {nested : RouteTree} {s : RequestState} :
    (RouteTree.bind pattern nested).accepts s.method s.remaining.toList = true ↔
      ∃ s', bindPattern pattern s = some s' ∧
        nested.accepts s'.method s'.remaining.toList = true := by
  rw [accepts, Pattern.leftBy_eq_leftOf, ← remaining_bindPattern]
  cases bound : bindPattern pattern s with
  | none => simp
  | some s' => simp [RequestState.method_congr (request_of_bindPattern bound)]

end RouteTree

def Hop.pass : Hop → RequestState → Option RequestState
  | .pattern source, s => RouteTree.bindPattern source s
  | .layer l, s => l.pass s

theorem Hop.request_of_pass {hop : Hop} {s s' : RequestState} (h : hop.pass s = some s') :
    s'.request = s.request := by
  cases hop with
  | pattern source => exact RouteTree.request_of_bindPattern h
  | layer l => exact (Layer.pass_frame h).1

/-- A prepared request is the request itself, where no parameters are declared, or has them in the
declared shape and the others among its extensions. -/
theorem Endpoint.prepare_cases {d : Declaration} {s prepared : RequestState}
    (h : prepare d s = .ok prepared) :
    (d.params.names = [] ∧ prepared = s) ∨ (d.params.names ≠ [] ∧
      ∃ c, s.params.convert d.params (d.policy.getD s.policy) = .ok c ∧
        prepared = (s.replaceParams c.record).withExtensions c.extras) := by
  unfold prepare at h
  split at h
  · rename_i none
    exact Or.inl ⟨Table.isEmpty_iff.1 none, (Except.ok.inj h).symm⟩
  · rename_i some
    obtain ⟨c, converted, rfl⟩ := except_map_eq_ok_iff.1 h
    exact Or.inr ⟨fun none => some (Table.isEmpty_iff.2 none), c, converted, rfl⟩

/-- One entry into the handler, if the parameters convert. -/
def Endpoint.entered (e : Endpoint) (s : RequestState) (draft : Draft) : List Visit :=
  match prepare e.declares s with
  | .ok prepared => [⟨e, prepared, draft⟩]
  | .error _ => []

namespace Leaf

/-- The request as it comes to the endpoint, if no body parser keeps it. -/
def arrive (leaf : Leaf) (s : RequestState) : Option RequestState :=
  leaf.way.foldlM (fun s hop => hop.pass s) s

def entered (leaf : Leaf) (s : RequestState) (draft : Draft) : List Visit :=
  match leaf.arrive s with
  | some arriving => leaf.endpoint.entered arriving draft
  | none => []

theorem arrive_below (leaf : Leaf) (hop : Hop) (s : RequestState) :
    (leaf.below hop).arrive s = (hop.pass s).bind leaf.arrive :=
  List.foldlM_cons

theorem arrive_below_eq_some_iff {leaf : Leaf} {hop : Hop} {s arriving : RequestState} :
    (leaf.below hop).arrive s = some arriving ↔
      ∃ s', hop.pass s = some s' ∧ leaf.arrive s' = some arriving := by
  rw [arrive_below, Option.bind_eq_some_iff]

theorem entered_below_of_pass (hop : Hop) {leaf : Leaf} {s s' : RequestState} {draft : Draft}
    (h : hop.pass s = some s') : (leaf.below hop).entered s draft = leaf.entered s' draft := by
  unfold entered
  rw [arrive_below, h]
  rfl

theorem entered_below_of_not_pass (hop : Hop) {leaf : Leaf} {s : RequestState} {draft : Draft}
    (h : hop.pass s = none) : (leaf.below hop).entered s draft = [] := by
  unfold entered
  rw [arrive_below, h]
  rfl

/-- A body parser that rejects the body keeps the request, wherever it stands on the way. -/
theorem arrive_of_rejects {leaf : Leaf} {s : RequestState}
    (h : ∃ l ∈ leaf.layers, l.Rejects s.request.body) : leaf.arrive s = none := by
  induction leaf using Leaf.induct generalizing s with
  | endpoint e =>
    obtain ⟨l, listed, -⟩ := h
    cases listed
  | below hop leaf ih =>
    rw [arrive_below, Option.bind_eq_none_iff]
    intro s' passed
    have request := Hop.request_of_pass passed
    obtain ⟨l, listed, rejects⟩ := h
    refine ih ⟨l, ?_, by rw [request]; exact rejects⟩
    cases hop with
    | pattern source => exact listed
    | layer l' =>
      rcases List.mem_cons.1 listed with rfl | further
      · have kept : l.pass s = none := Layer.pass_eq_none_iff.2 rejects
        exact absurd (passed.symm.trans kept) (by simp)
      · exact further

/-- Where no body parser stands in the way, an accepted request arrives. -/
theorem exists_arrive {leaf : Leaf} {s : RequestState} (accepts : leaf.Accepts s.method s.remaining)
    (h : ∀ l ∈ leaf.layers, ¬ l.Rejects s.request.body) :
    ∃ arriving, leaf.arrive s = some arriving := by
  induction leaf using Leaf.induct generalizing s with
  | endpoint e => exact ⟨s, rfl⟩
  | below hop leaf ih =>
    simp only [arrive_below]
    cases hop with
    | pattern source =>
      obtain ⟨left, cut, rest⟩ := accepts_below_pattern.1 accepts
      obtain ⟨s', bound, request, rfl⟩ := RouteTree.exists_bindPattern cut
      rw [show Hop.pass (.pattern source) s = some s' from bound, Option.bind_some]
      refine ih ?_ (by rw [request]; exact h)
      rw [RequestState.method_congr request]
      exact rest
    | layer l =>
      obtain ⟨s', passed⟩ := Layer.exists_pass (h l List.mem_cons_self)
      obtain ⟨request, remaining⟩ := Layer.pass_frame passed
      rw [show Hop.pass (.layer l) s = some s' from passed, Option.bind_some]
      refine ih ?_ ?_
      · rw [RequestState.method_congr request, remaining]
        exact accepts
      · rw [request]
        exact fun l' listed => h l' (List.mem_cons_of_mem _ listed)

end Leaf

theorem Endpoint.invoke_enters (e : Endpoint) (s : RequestState) (draft : Draft) :
    (e.invoke s draft).Enters (e.entered s draft) := by
  unfold Endpoint.invoke Endpoint.entered
  cases prepare e.declares s with
  | error cause => exact Course.done_enters _
  | ok prepared =>
    refine Course.note_entered_enters _ ((Course.lift_enters _).bind fun result => ?_)
    cases result <;> exact Course.done_enters _

namespace RouteTree

/-- Invoking a tree with a request that it accepts enters what its first accepting leaf enters. -/
theorem invoke_enters {t : RouteTree} (standard : t.Standard) {s : RequestState} {leaf : Leaf}
    (first : t.firstLeaf s.method s.remaining = some leaf) (draft : Draft) :
    (t.invoke s draft).Enters (leaf.entered s draft) := by
  induction t using RouteTree.induct generalizing s leaf with
  | endpoint e =>
    have own : leaf = ⟨[], e⟩ := by
      simpa [leaves] using List.mem_of_find?_eq_some first
    rw [own]
    exact e.invoke_enters s draft
  | bind pattern nested ih =>
    obtain ⟨left, inner, cut, below, rfl⟩ := firstLeaf_bind first
    obtain ⟨s', bound, request, rfl⟩ := exists_bindPattern cut
    rw [invoke, bound, Leaf.entered_below_of_pass (.pattern pattern) bound]
    refine ih standard ?_
    rw [RequestState.method_congr request]
    exact below
  | group members ih =>
    obtain ⟨t, listed, found, below⟩ := firstLeaf_group first
    rw [invoke, invokeFirst_eq_find, found]
    exact ih t listed (everywhereIn_iff.1 standard t listed) below
  | null => simp [firstLeaf, leaves] at first
  | layer l nested ih =>
    obtain ⟨inner, below, rfl⟩ := firstLeaf_layer first
    refine Layer.call_enters standard.1 (fun s' passed _ => ?_) ?_ ?_
    · rw [Leaf.entered_below_of_pass (.layer l) passed]
      obtain ⟨request, remaining⟩ := Layer.pass_frame passed
      refine ih standard.2 ?_
      rw [RequestState.method_congr request, remaining]
      exact below
    · exact fun kept => Leaf.entered_below_of_not_pass (.layer l) kept
    · intro _ refused
      exact absurd ((accepts_of_firstLeaf below).symm.trans refused) (by simp)

/-- A tree that answers a request which it does not accept enters no handler. -/
theorem invoke_enters_none {t : RouteTree} (standard : t.Standard) {s : RequestState}
    (refused : t.accepts s.method s.remaining.toList = false) (answers : t.answersUnmatched = true)
    (draft : Draft) : (t.invoke s draft).Enters [] := by
  induction t using RouteTree.induct generalizing s with
  | endpoint _ | bind _ _ _ | group _ _ | null => simp [answersUnmatched] at answers
  | layer l nested ih =>
    refine Layer.call_enters standard.1 (fun s' passed guard => ?_) (fun _ => rfl) (fun _ _ => rfl)
    have notHere : l.answersUnmatched ≠ true := by
      intro here
      exact absurd ((guard here).symm.trans refused) (by simp)
    refine ih standard.2 ((accepts_of_pass passed nested).trans refused) ?_
    simpa [answersUnmatched, notHere] using answers

mutual

/-- Runs the node, with `miss` in the place of the error for a request that it does not accept. -/
def invokeOr (miss : RequestState → Handled) : RouteTree → RequestState → Draft → Handled
  | .endpoint e, s, draft => e.invoke s draft
  | .bind pattern nested, s, draft =>
    match bindPattern pattern s with
    | some s' => invokeOr miss nested s' draft
    | none => miss s
  | .group members, s, draft => invokeFirstOr miss members s draft
  | .null, _, _ => .done (.ok false)
  | .layer l nested, s, draft =>
    l.call
      { accepts := fun method path => accepts nested method path.toList
        run := fun s draft => invokeOr miss nested s draft } s draft

def invokeFirstOr (miss : RequestState → Handled) :
    List RouteTree → RequestState → Draft → Handled
  | [], s, _ => miss s
  | t :: rest, s, draft =>
    if accepts t s.method s.remaining.toList then invokeOr miss t s draft
    else invokeFirstOr miss rest s draft

end

theorem invokeFirstOr_eq_find (miss : RequestState → Handled) (members : List RouteTree)
    (s : RequestState) (draft : Draft) :
    invokeFirstOr miss members s draft =
      match members.find? fun t => accepts t s.method s.remaining.toList with
      | some t => invokeOr miss t s draft
      | none => miss s := by
  induction members with
  | nil => rfl
  | cons t rest ih =>
    rw [invokeFirstOr, List.find?_cons]
    cases accepts t s.method s.remaining.toList with
    | true => rfl
    | false => exact ih

theorem invokeOr_unmatched (t : RouteTree) : t.invokeOr unmatched = t.invoke := by
  induction t using RouteTree.induct with
  | endpoint e => rfl
  | bind pattern nested ih =>
    funext s draft
    rw [invokeOr, invoke]
    cases bindPattern pattern s with
    | none => rfl
    | some s' => exact congrFun (congrFun ih s') draft
  | group members ih =>
    funext s draft
    rw [invokeOr, invoke, invokeFirstOr_eq_find, invokeFirst_eq_find]
    cases found : members.find? fun t => accepts t s.method s.remaining.toList with
    | none => rfl
    | some t => exact congrFun (congrFun (ih t (List.mem_of_find?_eq_some found)) s) draft
  | null => rfl
  | layer l nested ih =>
    funext s draft
    rw [invokeOr, invoke, ih]

/-- No node of the tree is invoked with a request that it does not accept, if the tree accepts
it: what such a node would do makes no difference. -/
theorem invokeOr_congr {t : RouteTree} (standard : t.Standard) {s : RequestState}
    (accepted : t.accepts s.method s.remaining.toList = true) (miss miss' : RequestState → Handled)
    (draft : Draft) : t.invokeOr miss s draft = t.invokeOr miss' s draft := by
  induction t using RouteTree.induct generalizing s with
  | endpoint e => rfl
  | bind pattern nested ih =>
    obtain ⟨s', bound, further⟩ := accepts_bind_iff.1 accepted
    rw [invokeOr, invokeOr, bound]
    exact ih standard further
  | group members ih =>
    rw [invokeOr, invokeOr, invokeFirstOr_eq_find, invokeFirstOr_eq_find]
    rw [accepts, acceptsAny_eq_any, List.any_eq_true, ← List.find?_isSome] at accepted
    obtain ⟨t, found⟩ := Option.isSome_iff_exists.1 accepted
    have listed := List.mem_of_find?_eq_some found
    have chosen : t.accepts s.method s.remaining.toList = true := by
      simpa using List.find?_some found
    rw [found]
    exact ih t listed (everywhereIn_iff.1 standard t listed) chosen
  | null => rfl
  | layer l nested ih =>
    refine Layer.call_congr standard.1 rfl fun s' passed => ?_
    exact ih standard.2 ((accepts_of_pass passed nested).trans accepted)

end RouteTree

end RequestRouter
