import RequestRouter.Proofs.Exchange.Meters
import RequestRouter.Proofs.Request.Path
import RequestRouter.Proofs.Router.FirstLeaf
import RequestRouter.Proofs.Router.Shown
import RequestRouter.Proofs.Tree.CapturedText

/-!
# The gate

A target that does not start with a slash or that holds two points in a row, and a body that is too
long, are answered before the tree is asked. So a handler that runs is on an absolute path, and what
the patterns above it captured can name nothing outside of that path.
-/

namespace RequestRouter

namespace Router

theorem hasTwoPoints_iff {cs : List Char} : hasTwoPoints cs = true ↔ ['.', '.'] <:+: cs := by
  fun_induction hasTwoPoints cs with
  | case1 rest => exact iff_of_true rfl ⟨[], rest, rfl⟩
  | case2 c rest notPoints ih =>
    rw [ih, List.infix_cons_iff]
    refine (or_iff_right fun starts => ?_).symm
    obtain ⟨left, eq⟩ := starts
    obtain ⟨rfl, rfl⟩ := List.cons.inj eq
    exact notPoints left rfl rfl
  | case3 => simp

theorem isLegalTarget_iff {target : List Char} :
    isLegalTarget target = true ↔ ['/'] <+: target ∧ ¬ ['.', '.'] <:+: target := by
  rw [isLegalTarget, Bool.and_eq_true, Bool.not_eq_true', ← Bool.not_eq_true, hasTwoPoints_iff]
  refine and_congr_left fun _ => ?_
  cases target with
  | nil => simp
  | cons c rest =>
    rw [List.cons_prefix_cons, List.head?_cons, beq_iff_eq, Option.some_inj]
    exact ⟨fun same => ⟨same.symm, List.nil_prefix⟩, fun starts => starts.1.symm⟩

def rejection (r : Router) (fresh : RequestId) (request : Request) (status : Nat) (body : String) :
    Response :=
  ((r.firstDraft fresh request).withStatus status).completeText body

/-- The gate answered the request. One response was offered to the sink, and its status is reported
if the sink took it. No handler was entered and no meter counted. The tree had no part in it: with
any other tree the same happens. -/
structure Stopped (r : Router) (sink : Sink) (fresh : RequestId) (request : Request) (log : Log)
    (response : Response) : Prop where
  served : r.serve sink fresh request log =
    (.ok ⟨true, if sink.takes log.offered response then some response.status else none,
        requestId r.settings fresh request⟩,
      { log with
        committed := some response.status
        offered := log.offered ++ [response]
        delivered := log.delivered ++ if sink.takes log.offered response then [response] else [] })
  any_tree : ∀ r' : Router, r'.settings = r.settings →
    r'.serve sink fresh request log = r.serve sink fresh request log

theorem dispatch_of_illegal {r : Router} {request : Request}
    (illegal : isLegalTarget request.target.toList = false) (fresh : RequestId) :
    r.dispatch fresh request = reject (r.firstDraft fresh request) 400 illegalTargetBody
      (requestId r.settings fresh request) := by
  simp only [dispatch, illegal]
  rfl

theorem dispatch_of_long {r : Router} {request : Request}
    (legal : isLegalTarget request.target.toList = true)
    (long : r.settings.maxBodyBytes < request.body.length) (fresh : RequestId) :
    r.dispatch fresh request = reject (r.firstDraft fresh request) 413 payloadTooLargeBody
      (requestId r.settings fresh request) := by
  simp only [dispatch, legal, if_pos long]
  rfl

theorem stopped_of_dispatch {r : Router} {fresh : RequestId} {request : Request} {status : Nat}
    {body : String} (stopped : ¬ r.Admits request)
    (h : r.dispatch fresh request = reject (r.firstDraft fresh request) status body
      (requestId r.settings fresh request)) (sink : Sink) (log : Log) :
    Stopped r sink fresh request log (rejection r fresh request status body) := by
  refine ⟨?_, fun r' settings => ?_⟩
  · rw [serve, h, run_reject _ _ _ _ sink rfl]
    rfl
  · rw [serve, serve, dispatch_of_not_admits settings stopped]

/-- A handler that a dispatch enters is entered with a request that the gate let through, carried
there past the patterns of its leaf. -/
theorem visits_carried {r : Router} (standard : r.root.Standard) (sink : Sink) (fresh : RequestId)
    (request : Request) (log : Log) :
    ∃ visits, (r.serve sink fresh request log).2.visits = log.visits ++ visits ∧
      ∀ visit ∈ visits, r.Admits request ∧ ∃ leaf arriving captures,
        r.root.firstLeaf request.method request.path = some leaf ∧
        visit.endpoint = leaf.endpoint ∧
        RequestState.Carried leaf.patterns captures (r.entry fresh request) arriving ∧
        Endpoint.prepare leaf.endpoint.declares arriving = .ok visit.request := by
  by_cases admits : r.Admits request
  · rcases serve_visits_of_firstLeaf standard sink fresh request log with
      idle | ⟨leaf, first, visits⟩
    · exact ⟨[], idle.trans (List.append_nil _).symm, nofun⟩
    · refine ⟨_, visits, fun visit entered => ⟨admits, ?_⟩⟩
      obtain ⟨endpoint, arriving, arrives, prepared⟩ := Leaf.visit_of_entered entered
      obtain ⟨captures, carried⟩ := Leaf.carried_of_arrive arrives
      exact ⟨leaf, arriving, captures, first, endpoint, carried, prepared⟩
  · exact ⟨[], (serve_visits_of_idle standard sink fresh log (Or.inl admits)).trans
      (List.append_nil _).symm, nofun⟩

/-- The gate. A target that does not start with a slash or that holds `..` is answered with one 400,
whatever the body; any other request whose body is too long with one 413. The tree is not asked.
A handler that runs below standard layers is on a path that starts with a slash. What the patterns
on the way to it captured, which is what its parameters are made of, are non-empty parts of this
path without `..` and without a question mark, those of a `:name` without a slash. -/
theorem serve_gated (r : Router) (sink : Sink) (fresh : RequestId) (request : Request) (log : Log) :
    (¬ ['/'] <+: request.target.toList ∨ ['.', '.'] <:+: request.target.toList →
      Stopped r sink fresh request log (rejection r fresh request 400 "Illegal request-target")) ∧
    (['/'] <+: request.target.toList → ¬ ['.', '.'] <:+: request.target.toList →
      r.settings.maxBodyBytes < request.body.length →
      Stopped r sink fresh request log (rejection r fresh request 413 "Payload too large")) ∧
    (r.root.Standard → ∃ visits,
      (r.serve sink fresh request log).2.visits = log.visits ++ visits ∧
      ∀ visit ∈ visits, visit.request.path = request.path ∧ ['/'] <+: request.path.toList ∧
        ∃ leaf arriving captures, r.root.firstLeaf request.method request.path = some leaf ∧
          visit.endpoint = leaf.endpoint ∧
          RequestState.Carried leaf.patterns captures (r.entry fresh request) arriving ∧
          Endpoint.prepare leaf.endpoint.declares arriving = .ok visit.request ∧
          List.Forall₂ (fun source own => ∀ name v, Table.get? own name = some v →
              ∃ text, v = .string text ∧ Pattern.Captured request.path source name text ∧
                ¬ ['.', '.'] <:+: text.toList ∧ '?' ∉ text.toList)
            leaf.patterns captures) := by
  refine ⟨fun illegal => ?_, fun absolute noPoints long => ?_, fun standard => ?_⟩
  · have refused : isLegalTarget request.target.toList = false := by
      rw [← Bool.not_eq_true, isLegalTarget_iff]
      exact fun legal => illegal.elim (fun relative => relative legal.1) legal.2
    refine stopped_of_dispatch (fun admits => ?_) (dispatch_of_illegal refused fresh) sink log
    exact absurd (admits.1.symm.trans refused) (by simp)
  · have legal := isLegalTarget_iff.2 ⟨absolute, noPoints⟩
    refine stopped_of_dispatch (fun admits => ?_) (dispatch_of_long legal long fresh) sink log
    exact absurd admits.2 (Nat.not_le.2 long)
  · obtain ⟨visits, entered, carried⟩ := visits_carried standard sink fresh request log
    refine ⟨visits, entered, fun visit member => ?_⟩
    obtain ⟨admits, leaf, arriving, captures, first, endpoint, carried, prepared⟩ :=
      carried visit member
    obtain ⟨absolute, noPoints⟩ := isLegalTarget_iff.1 admits.1
    obtain ⟨same, -, -⟩ := Endpoint.prepare_frame prepared
    have own : visit.request.request = request := same.trans carried.request_eq
    refine ⟨congrArg Request.path own, Request.path_absolute absolute, leaf, arriving, captures,
      first, endpoint, carried, prepared, ?_⟩
    have texts := Pattern.capturesText_of_capturesAlong (List.suffix_refl _) carried.captures_eq
    refine texts.imp fun source captured holds name v found => ?_
    obtain ⟨text, value, part⟩ := holds name v found
    have inside : text.toList <:+: request.path.toList := part.part
    refine ⟨text, value, part, fun points => ?_, fun member => ?_⟩
    · exact noPoints ((points.trans inside).trans request.path_prefix.isInfix)
    · exact request.not_mem_path (inside.subset member)

def filesRouter : Router :=
  let read : RouteTree := .endpoint (.ofHandler .get fun _ _ => .done (.ok ()))
  let root : RouteTree := .layer .serverFault (.bind "/files/:user" (.group [.bind "/*file" read]))
  ⟨root, { maxBodyBytes := 3 }, root.describe ""⟩

theorem serve_gated_files :
    let climbing : Request := ⟨.get, "/files/ann/../bob", [], [0, 0, 0, 0]⟩
    let long : Request := ⟨.get, "/files/ann/notes", [], [0, 0, 0, 0]⟩
    let reading : Request := ⟨.get, "/files/ann/notes/a.txt?v=1", [], []⟩
    ['.', '.'] <:+: climbing.target.toList ∧
    (filesRouter.serve .memory default climbing {}).1 = .ok ⟨true, some 400, default⟩ ∧
    ['/'] <+: long.target.toList ∧ ¬ ['.', '.'] <:+: long.target.toList ∧
    filesRouter.settings.maxBodyBytes < long.body.length ∧
    (filesRouter.serve .memory default long {}).1 = .ok ⟨true, some 413, default⟩ ∧
    filesRouter.root.Standard ∧ ∃ visit captures,
      (filesRouter.serve .memory default reading {}).2.visits = [visit] ∧
      visit.request.path = "/files/ann/notes/a.txt" ∧
      Pattern.capturesAlong ["/files/:user", "/*file"] reading.path = some captures ∧
      captures.map (fun own => (own.text? "user", own.text? "file")) =
        [(some "ann", none), (none, some "notes/a.txt")] ∧
      List.Forall₂ (fun source own => ∀ name v, Table.get? own name = some v →
          ∃ text, v = .string text ∧ Pattern.Captured reading.path source name text ∧
            ¬ ['.', '.'] <:+: text.toList ∧ '?' ∉ text.toList)
        ["/files/:user", "/*file"] captures := by
  intro climbing long reading
  have standard : filesRouter.root.Standard := ⟨trivial, trivial, trivial⟩
  have climbs : ['.', '.'] <:+: climbing.target.toList := by decide +kernel
  have absolute : ['/'] <+: long.target.toList := by decide +kernel
  have noPoints : ¬ ['.', '.'] <:+: long.target.toList := by decide +kernel
  have tooLong : filesRouter.settings.maxBodyBytes < long.body.length := by decide +kernel
  have illegal := (serve_gated filesRouter .memory default climbing {}).1 (Or.inr climbs)
  have oversized := (serve_gated filesRouter .memory default long {}).2.1 absolute noPoints tooLong
  obtain ⟨visits, all, safe⟩ := (serve_gated filesRouter .memory default reading {}).2.2 standard
  have once : (filesRouter.serve .memory default reading {}).2.visits.length = 1 := by
    decide +kernel
  obtain ⟨visit, entered⟩ := List.length_eq_one_iff.1 once
  have own : visit ∈ visits := by
    rw [← List.nil_append visits, ← all, entered]
    exact List.mem_singleton_self _
  obtain ⟨path, -, leaf, arriving, captures, first, -, carried, -, texts⟩ := safe visit own
  have only : leaf.patterns = ["/files/:user", "/*file"] :=
    congrArg Leaf.patterns (List.mem_singleton.1 (List.mem_of_find?_eq_some first))
  have captured : Pattern.capturesAlong leaf.patterns reading.path = some captures :=
    carried.captures_eq
  rw [only] at captured texts
  have values : (Pattern.capturesAlong ["/files/:user", "/*file"] reading.path).map
      (fun captures => captures.map fun own => (own.text? "user", own.text? "file")) =
        some [(some "ann", none), (none, some "notes/a.txt")] := by
    decide +kernel
  rw [captured, Option.map_some, Option.some_inj] at values
  refine ⟨climbs, congrArg Prod.fst illegal.served, absolute, noPoints, tooLong,
    congrArg Prod.fst oversized.served, standard, visit, captures, entered, ?_, captured, values,
    texts⟩
  rw [path]
  decide +kernel

end Router

end RequestRouter
