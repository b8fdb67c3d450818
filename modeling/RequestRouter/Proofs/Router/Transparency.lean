import RequestRouter.Proofs.Router.FirstLeaf
import RequestRouter.Proofs.Router.OneResponse
import RequestRouter.Proofs.Tree.Transparency

/-!
# Routers with layers that make no difference

What holds of the trees holds of their routers: with the same settings they are built alike, list
the same routes and serve requests alike, one by one and one after another.
-/

namespace RequestRouter.Router

theorem contain_alike (draft : Draft) {node node' : Handled} (alike : node.Alike node') :
    (contain draft node).Alike (contain draft node') := by
  refine alike.attempt.bind fun result => ?_
  cases Layer.outcomeOf result with
  | ok handled => exact .done handled
  | error e => exact (Layer.sendFault_ignoresMeters draft).alike.bind fun _ => .done false

section SameSettings

variable {r r' : Router} (settings : r'.settings = r.settings) {request : Request}
  (fresh : RequestId)

include settings

theorem admits_of_settings (admits : r.Admits request) : r'.Admits request := by
  rw [Admits, settings]
  exact admits

theorem entry_of_settings : r'.entry fresh request = r.entry fresh request := by
  rw [entry, entry, settings]

theorem firstDraft_of_settings : r'.firstDraft fresh request = r.firstDraft fresh request := by
  rw [firstDraft, firstDraft, settings]

/-- Routers dispatch a request alike if the same of them ask their trees, and these run alike. -/
theorem dispatch_alike (asks : r'.Asks request ↔ r.Asks request)
    (run : ∀ s draft, (r.root.invoke s draft).Alike (r'.root.invoke s draft)) :
    (r.dispatch fresh request).Alike (r'.dispatch fresh request) := by
  rcases r.dispatch_cases fresh request with
    ⟨stopped, status, body, rejected⟩ | ⟨admits, idle, quiet⟩ | ⟨admits, busy, ran⟩
  · rw [dispatch_of_not_admits settings stopped, rejected]
    exact (reject_ignoresMeters _ _ _ _).alike
  · have quiet' := dispatch_of_idle (admits_of_settings settings admits) (idle ∘ asks.1) fresh
    rw [quiet, quiet', settings]
    exact .done _
  · have ran' := dispatch_of_asks (admits_of_settings settings admits) (asks.2 busy) fresh
    rw [ran, ran', runTree, runTree, entry_of_settings settings, firstDraft_of_settings settings,
      settings]
    exact (contain_alike _ (run _ _)).bind fun handled => .committed fun status => .done _

/-- Routers dispatch a request in the same way if the same of them ask their trees, and these run
it in the same way. -/
theorem dispatch_congr (asks : r'.Asks request ↔ r.Asks request)
    (run : r.Asks request → ∀ draft, r'.root.invoke (r.entry fresh request) draft =
      r.root.invoke (r.entry fresh request) draft) :
    r'.dispatch fresh request = r.dispatch fresh request := by
  rcases r.dispatch_cases fresh request with
    ⟨stopped, -⟩ | ⟨admits, idle, quiet⟩ | ⟨admits, busy, ran⟩
  · exact dispatch_of_not_admits settings stopped fresh
  · have quiet' := dispatch_of_idle (admits_of_settings settings admits) (idle ∘ asks.1) fresh
    rw [quiet, quiet', settings]
  · have ran' := dispatch_of_asks (admits_of_settings settings admits) (asks.2 busy) fresh
    rw [ran, ran', runTree, runTree, entry_of_settings settings, firstDraft_of_settings settings,
      settings, run busy]

theorem dispatch_alike_of_watches (inserted : r.root.Inserted Layer.Watches r'.root)
    (blind : r.root.Blind) : (r.dispatch fresh request).Alike (r'.dispatch fresh request) := by
  have quiet : ∀ l : Layer, l.Watches → l.answersUnmatched = false := by
    rintro l (_ | _ | _) <;> rfl
  refine dispatch_alike settings fresh ?_ (inserted.invoke_alike blind)
  rw [Asks, Asks, inserted.accepts_eq, inserted.answersUnmatched_eq quiet]

theorem dispatch_eq_of_accepts (inserted : r.root.Inserted (· = .notFound) r'.root)
    (orderly : r.root.Orderly)
    (accepted : r.root.accepts request.method request.path.toList = true) :
    r'.dispatch fresh request = r.dispatch fresh request := by
  refine dispatch_congr settings fresh ?_ fun _ => ?_
  · have accepted' := (inserted.accepts_eq request.method request.path.toList).trans accepted
    exact ⟨fun _ => Or.inl accepted, fun _ => Or.inl accepted'⟩
  · rw [← r.entry_method fresh, ← r.entry_remaining fresh] at accepted
    exact inserted.invoke_eq_of_accepts orderly accepted

theorem dispatch_eq_of_below (inserted : r.root.InsertedBelow (· = .notFound) r'.root)
    (orderly : r.root.Orderly) : r'.dispatch fresh request = r.dispatch fresh request := by
  by_cases accepted : r.root.accepts request.method request.path.toList = true
  · exact dispatch_eq_of_accepts settings fresh inserted.inserted orderly accepted
  · refine dispatch_congr settings fresh ?_ fun asked draft => ?_
    · rw [Asks, Asks, inserted.inserted.accepts_eq, inserted.answersUnmatched_eq]
    · rw [inserted.invoke_eq orderly (asked.resolve_left accepted)]

end SameSettings

/-- Routers that dispatch alike serve lists of requests alike. -/
theorem serveAll_alike {r r' : Router}
    (alike : ∀ fresh request, (r.dispatch fresh request).Alike (r'.dispatch fresh request))
    (sink : Sink) (fresh : Nat → RequestId) (place : Nat) (requests : List Request) {l l' : Log}
    (same : l.unmetered = l'.unmetered) :
    (r.serveAll sink fresh place requests l).1 = (r'.serveAll sink fresh place requests l').1 ∧
      (r.serveAll sink fresh place requests l).2.unmetered =
        (r'.serveAll sink fresh place requests l').2.unmetered := by
  induction requests generalizing place l l' with
  | nil => exact ⟨rfl, same⟩
  | cons request rest ih =>
    obtain ⟨outcome, ended, -, outcomes, final⟩ := serveAll_cons r sink fresh place request rest l
    obtain ⟨outcome', ended', -, outcomes', final'⟩ :=
      serveAll_cons r' sink fresh place request rest l'
    obtain ⟨value, served⟩ :=
      alike (fresh place) request sink _ _ (Log.nextExchange_unmetered same)
    obtain ⟨values, logs⟩ := ih (place + 1) served
    have first : outcome = outcome' := Except.ok.inj (ended.symm.trans (value.trans ended'))
    rw [outcomes, outcomes', final, final', first]
    exact ⟨congrArg (outcome' :: ·) values, logs⟩

/-- Layers that provide nothing leave a tree's router as it is, but for the tree. -/
theorem build_inserted {p : Layer → Prop} {t t' : RouteTree} (inserted : t.Inserted p t')
    (silent : ∀ l scope, p l → l.scope scope = scope) (settings : Settings) :
    build t' settings = (build t settings).map fun r => { r with root := t' } := by
  rw [build, build, inserted.check_eq silent, inserted.describe_eq]
  cases t.check .root <;> rfl

/-- Layers that watch or answer 404, inserted anywhere, change neither the check of a tree nor the
routes that it describes. Layers that watch leave the outcome of every request as it is, and all of
the log but the meters, unless a handler reads these. So do layers that answer 404 with a request
that the tree accepts; below a pattern or a group they do with every request. -/
theorem serve_inserted (t t' : RouteTree) (settings : Settings) :
    (t.Inserted (fun l => l.Watches ∨ l = .notFound) t' →
      (∀ scope, t'.check scope = t.check scope) ∧
      (∀ path, t'.describe path = t.describe path) ∧
      build t' settings = (build t settings).map fun r => { r with root := t' }) ∧
    ∀ r r', build t settings = .ok r → build t' settings = .ok r' → ∀ sink,
      (t.Inserted Layer.Watches t' → t.Blind → ∀ log log', log.unmetered = log'.unmetered →
        (∀ fresh request,
          (r.serve sink fresh request log).1 = (r'.serve sink fresh request log').1 ∧
          (r.serve sink fresh request log).2.unmetered =
            (r'.serve sink fresh request log').2.unmetered) ∧
        ∀ fresh place requests,
          (r.serveAll sink fresh place requests log).1 =
            (r'.serveAll sink fresh place requests log').1 ∧
          (r.serveAll sink fresh place requests log).2.unmetered =
            (r'.serveAll sink fresh place requests log').2.unmetered) ∧
      (t.Inserted (· = .notFound) t' → t.Orderly → ∀ fresh request log,
        t.accepts request.method request.path.toList = true →
        r'.serve sink fresh request log = r.serve sink fresh request log) ∧
      (t.InsertedBelow (· = .notFound) t' → t.Orderly → ∀ fresh request log,
        r'.serve sink fresh request log = r.serve sink fresh request log) := by
  constructor
  · intro inserted
    have silent : ∀ (l : Layer) scope, l.Watches ∨ l = .notFound → l.scope scope = scope := by
      rintro l scope ((_ | _ | _) | rfl) <;> rfl
    exact ⟨inserted.check_eq silent, inserted.describe_eq, build_inserted inserted silent settings⟩
  · intro r r' built built' sink
    obtain ⟨rfl, rfl, -, -⟩ := parts_of_build built
    obtain ⟨rfl, same, -, -⟩ := parts_of_build built'
    refine ⟨?_, ?_, ?_⟩
    · intro inserted blind log log' logs
      have alike : ∀ fresh request, (r.dispatch fresh request).Alike (r'.dispatch fresh request) :=
        fun fresh request => dispatch_alike_of_watches same fresh inserted blind
      refine ⟨fun fresh request => ?_, fun fresh place requests => ?_⟩
      · exact alike fresh request sink _ _ (Log.nextExchange_unmetered logs)
      · exact serveAll_alike alike sink fresh place requests logs
    · intro inserted orderly fresh request log accepted
      rw [serve, serve, dispatch_eq_of_accepts same fresh inserted orderly accepted]
    · intro inserted orderly fresh request log
      rw [serve, serve, dispatch_eq_of_below same fresh inserted orderly]

/-- Hands the request on; sends a response of its own when the node has ended without a crash. -/
def followUp : RequestState → Draft → Script :=
  fun s draft => .run s draft fun
    | .ok result => .send ((draft.withStatus 299).complete "late") fun _ => .done result
    | .error c => .crash c

/-- Two endpoints behind a pattern and a stage of their own, with `around` at two places. -/
def directory (around : RouteTree → RouteTree) : RouteTree :=
  .layer (.custom (Script.stage followUp)) (.bind "/user" (around (.group [
    .bind "/:id" (around (.ofHandler .get fun _ draft => respond (draft.complete "found"))),
    .ofHandler .get fun _ _ => .crash .other])))

theorem directory_inserted {p : Layer → Prop} {l : Layer} (new : p l) :
    (directory id).InsertedBelow p (directory (.layer l)) :=
  .layer _ (.bind _ (.insert new (.groupCons (.bind _ (.insert new (.endpoint _)))
    (.groupCons (.endpoint _) .groupNil))))

theorem serve_inserted_directory :
    let watched := directory (.layer (.metrics "users"))
    let guarded := directory (.layer .notFound)
    let topped := guarded.wrap .notFound
    let requests : List Request := ["/user/7", "/user", "/none"].map (⟨.get, ·, [], []⟩)
    (directory id).Blind ∧ (directory id).Orderly ∧
      (directory id).Inserted Layer.Watches watched ∧
      (directory id).InsertedBelow (· = .notFound) guarded ∧
      (directory id).Inserted (· = .notFound) topped ∧
      ∃ r, build (directory id) {} = .ok r ∧
        (∃ r', build watched {} = .ok r' ∧
          (r'.serveAll .memory (fun _ => default) 0 requests {}).1.map
              (fun outcome => (outcome.handled, outcome.status)) =
            [(true, some 200), (false, some 500), (false, none)]) ∧
        (∃ r', build guarded {} = .ok r' ∧ ∀ request ∈ requests,
          r'.serve .memory default request {} = r.serve .memory default request {}) ∧
        ∃ r', build topped {} = .ok r' ∧
          r'.serve .memory default ⟨.get, "/user/7", [], []⟩ {} =
            r.serve .memory default ⟨.get, "/user/7", [], []⟩ {} := by
  intro watched guarded topped requests
  have blind : (directory id).Blind := by
    refine ⟨Script.stage_blind, fun s draft reply => ?_, fun _ _ => trivial, trivial⟩
    cases reply <;> trivial
  have orderly : (directory id).Orderly := by
    have heeds : ∀ accepts s draft, accepts s.method s.remaining = true →
        (followUp s draft).Heeds accepts := by
      intro accepts s draft accepted
      refine ⟨accepted, fun result => ?_⟩
      cases result with
      | error c => trivial
      | ok result => exact fun _ => trivial
    exact ⟨Script.stage_orderly heeds, trivial, trivial, trivial⟩
  have watching : (directory id).Inserted Layer.Watches watched :=
    (directory_inserted (Layer.Watches.metrics "users")).inserted
  have guarding : (directory id).InsertedBelow (· = .notFound) guarded := directory_inserted rfl
  have topping : (directory id).Inserted (· = .notFound) topped :=
    .insert rfl guarding.inserted
  let r : Router := ⟨directory id, {}, (directory id).describe ""⟩
  have built : build (directory id) {} = .ok r := rfl
  refine ⟨blind, orderly, watching, guarding, topping, r, built, ?_, ?_, ?_⟩
  · have built' : build watched {} = .ok { r with root := watched } := rfl
    obtain ⟨alike, -, -⟩ := (serve_inserted (directory id) watched {}).2 r _ built built' .memory
    obtain ⟨-, all⟩ := alike watching blind {} {} rfl
    refine ⟨_, built', ?_⟩
    rw [← (all (fun _ => default) 0 requests).1]
    decide +kernel
  · have built' : build guarded {} = .ok { r with root := guarded } := rfl
    obtain ⟨-, -, same⟩ := (serve_inserted (directory id) guarded {}).2 r _ built built' .memory
    exact ⟨_, built', fun request _ => same guarding orderly default request {}⟩
  · have built' : build topped {} = .ok { r with root := topped } := rfl
    obtain ⟨-, same, -⟩ := (serve_inserted (directory id) topped {}).2 r _ built built' .memory
    have accepted : (directory id).accepts .get "/user/7".toList = true := by decide +kernel
    exact ⟨_, built', same topping orderly default ⟨.get, "/user/7", [], []⟩ {} accepted⟩

end RequestRouter.Router
