import Mathlib.Data.List.Infix
import RequestRouter.Proofs.Demo.Pages
import RequestRouter.Proofs.Router.Responses
import RequestRouter.Proofs.Tree.Views

/-!
# The answers of the demo application

Every request to the demo gets one response, whose status is computed from the request and the
settings. The handlers' typed views do not fail: what they ask for has been bound by a pattern or
made by the body parser.
-/

namespace RequestRouter.Demo

open Pattern

/-- The body parser of the age rejects the body: it is not blank and no JSON object, or the strict
policy finds no member `age` that coerces to an integer. -/
def RefusesAge (policy : ConversionPolicy) (raw : List UInt8) : Prop :=
  (raw.all isBlankByte = false ∧ Layer.isObject raw = false) ∨
    (policy = .strict ∧ ((Layer.bodyFields? raw).bind fun fields =>
      (fields.get? "age").bind FieldKind.integer.coerce) = none)

instance (policy : ConversionPolicy) (raw : List UInt8) : Decidable (RefusesAge policy raw) :=
  inferInstanceAs (Decidable (_ ∨ _))

instance (path : String) : Decidable (UserPath "/age" path) :=
  decidable_of_iff _ (leftOf_userPage_iff "/user/:userId/age" "/age" rfl rfl rfl)

def pageStatus (policy : ConversionPolicy) (method : Method) (path : String)
    (raw : List UInt8) : Nat :=
  if method = .get ∧ path = "/boom" then 500
  else if method = .post ∧ UserPath "/age" path ∧ RefusesAge policy raw then 400
  else 200

def dueStatus (settings : Settings) (request : Request) : Nat :=
  if ¬ (['/'] <+: request.target.toList ∧ ¬ ['.', '.'] <:+: request.target.toList) then 400
  else if settings.maxBodyBytes < request.body.length then 413
  else if request.method = .get ∧ request.path = "/boom" then 500
  else if ¬ ∃ d ∈ table, d.Accepts request.method request.path then 404
  else if request.method = .post ∧ UserPath "/age" request.path ∧
    RefusesAge settings.bodyPolicy request.body then 400
  else 200

theorem rejects_age_iff {policy : ConversionPolicy} {raw : List UInt8} :
    (Layer.jsonBody ageSchema policy).Rejects raw ↔ RefusesAge policy raw := by
  have declared {name : String} {kind : FieldKind} :
      ageSchema.get? name = some kind ↔ "age" = name ∧ FieldKind.integer = kind := by
    rw [ageSchema, Table.get?_single, Option.ite_none_right_eq_some, Option.some_inj]
  rw [Layer.rejects_jsonBody_iff, RefusesAge, ← Layer.bodyFields?_eq_none_iff]
  cases Layer.bodyFields? raw with
  | none => simp
  | some fields =>
    cases held : fields.get? "age" <;> simp [declared, held]

section Leaves

variable {s : RequestState} {draft : Draft}

def layersAbove : List Layer :=
  [.metrics meter, .tracing, .profile, .serverFault, .notFound]

/-- The layers above all routes reject no body. -/
theorem clear_of_layers {leaf : Leaf} {below : List Layer} {body : List UInt8}
    (layers : leaf.layers = layersAbove ++ below) (clear : ∀ l ∈ below, ¬ l.Rejects body) :
    ∀ l ∈ leaf.layers, ¬ l.Rejects body := by
  rw [layers, List.forall_mem_append]
  refine ⟨?_, clear⟩
  simp [layersAbove, Layer.Rejects]

theorem respond_ok {response : Response} (ok : response.status = 200) :
    ((respond response).lift : Course Event _).Settles (.ok ()) (some 200) := by
  rw [← ok]
  exact respond_settles response

/-- The handler responds and nothing goes wrong. -/
theorem settles_of_success {leaf : Leaf} (accepts : leaf.Accepts s.method s.remaining)
    (clear : ∀ l ∈ leaf.layers, ¬ l.Rejects s.request.body) {status : Option Nat}
    (ends : ∀ arriving, leaf.arrive s = some arriving →
      ∃ prepared, Endpoint.prepare leaf.endpoint.declares arriving = .ok prepared ∧
        ((leaf.endpoint.handler prepared draft).lift : Course Event _).Settles (.ok ()) status) :
    leaf.Settles s draft (.ok true, status) :=
  Leaf.settles_of_arrive accepts clear ends

theorem settles_leafAt {pattern : String} {handler : Handler}
    (accepts : (leafAt pattern handler).Accepts s.method s.remaining)
    {result : Except HandlerError Unit} {status : Option Nat}
    (ends : ∀ arriving : RequestState, arriving.request = s.request →
      ((handler arriving draft).lift : Course Event _).Settles result status) :
    (leafAt pattern handler).Settles s draft (Endpoint.resultOf result, status) := by
  have clear : ∀ l ∈ (leafAt pattern handler).layers, ¬ l.Rejects s.request.body :=
    clear_of_layers rfl (List.forall_mem_nil _)
  refine Leaf.settles_of_arrive accepts clear fun arriving arrives => ⟨arriving, rfl, ?_⟩
  obtain ⟨captures, carried⟩ := Leaf.carried_of_arrive arrives
  exact ends arriving carried.request_eq

theorem settles_greetLeaf (accepts : greetLeaf.Accepts s.method s.remaining)
    (ok : draft.status = 200) : greetLeaf.Settles s draft (.ok true, some 200) := by
  have clear : ∀ l ∈ greetLeaf.layers, ¬ l.Rejects s.request.body :=
    clear_of_layers rfl (List.forall_mem_singleton.2 id)
  exact settles_of_success accepts clear fun arriving _ => ⟨arriving, rfl, respond_ok ok⟩

/-- Below the pattern of the user, an endpoint that declares the user is prepared, and its view of
the user does not fail. -/
theorem exists_prepare_user {leaf : Leaf} (below : "/user/:userId" ∈ leaf.patterns)
    {arriving : RequestState} (arrives : leaf.arrive s = some arriving) {d : Declaration}
    (declares : d.params = userSchema) :
    ∃ prepared, Endpoint.prepare d arriving = .ok prepared ∧ prepared.body = arriving.body ∧
      ∃ user, readUser prepared = .ok user := by
  have compiled : ∃ p, compile "/user/:userId" = .ok p ∧ "userId" ∈ p.params :=
    ⟨_, rfl, List.mem_singleton_self _⟩
  obtain ⟨p, compiles, param⟩ := compiled
  have bound := Leaf.text_of_arrive arrives below compiles param
  have texts (name kind) (declared : d.params.get? name = some kind) :
      kind = .string ∧ ∃ text, arriving.params.get? name = some (.string text) := by
    rw [declares, userSchema, Table.get?_single, Option.ite_none_right_eq_some] at declared
    obtain ⟨rfl, same⟩ := declared
    cases same
    exact ⟨rfl, bound⟩
  have asked : ¬ d.params.isEmpty = true := by
    rw [declares]
    decide
  obtain ⟨prepared, prepares, fits, body⟩ := Endpoint.exists_prepare asked texts
  rw [declares] at fits
  refine ⟨prepared, prepares, body, Record.exists_readStruct_of_fits fits ?_⟩
  exact List.forall_mem_singleton.2 ⟨.string, rfl, Shape.text_serves⟩

theorem settles_nameLeaf (accepts : nameLeaf.Accepts s.method s.remaining)
    (ok : draft.status = 200) : nameLeaf.Settles s draft (.ok true, some 200) := by
  have clear : ∀ l ∈ nameLeaf.layers, ¬ l.Rejects s.request.body :=
    clear_of_layers rfl (List.forall_mem_nil _)
  refine settles_of_success accepts clear fun arriving arrives => ?_
  obtain ⟨prepared, prepares, -, user, view⟩ :=
    exists_prepare_user List.mem_cons_self arrives (rfl : nameLeaf.endpoint.declares.params = _)
  refine ⟨prepared, prepares, ?_⟩
  show ((userName prepared draft).lift : Course Event _).Settles _ _
  rw [userName, view]
  exact respond_ok ok

/-- What the body parser made of the body has an age that can be read. -/
theorem exists_readBody_age {policy : ConversionPolicy} {arriving prepared : RequestState}
    (arrives : (ageLeaf policy).arrive s = some arriving)
    (body : prepared.body = arriving.body) :
    ∃ age, prepared.readBody (.struct [("age", .int64)]) = .ok age := by
  have layers : (ageLeaf policy).layers = layersAbove ++ [.jsonBody ageSchema policy] := rfl
  obtain ⟨c, parsed, held⟩ := Leaf.body_of_arrive arrives layers fun _ _ => List.not_mem_nil
  obtain ⟨fields, -, converted⟩ := Layer.exists_fields_of_readBody parsed
  have fits := Record.fits_of_convert converted fun name number => by
    simp only [ageSchema, Table.get?_single, Option.ite_none_right_eq_some] at number
    cases number.2
  rw [RequestState.readBody, body, held]
  refine Record.exists_readStruct_of_fits fits ?_
  exact List.forall_mem_singleton.2 ⟨.integer, rfl, Shape.int64_serves⟩

theorem settles_ageLeaf {policy : ConversionPolicy}
    (accepts : (ageLeaf policy).Accepts s.method s.remaining) (ok : draft.status = 200) :
    (ageLeaf policy).Settles s draft
      (.ok true, some (if RefusesAge policy s.request.body then 400 else 200)) := by
  have layers : (ageLeaf policy).layers = layersAbove ++ [.jsonBody ageSchema policy] := rfl
  split
  · rename_i refuses
    have last : .jsonBody ageSchema policy ∈ (ageLeaf policy).layers := by
      rw [layers]
      exact List.mem_append_right _ List.mem_cons_self
    exact Leaf.settles_of_rejects ⟨_, last, rejects_age_iff.2 refuses⟩
  · rename_i takes
    have clear : ∀ l ∈ (ageLeaf policy).layers, ¬ l.Rejects s.request.body :=
      clear_of_layers layers (List.forall_mem_singleton.2 (mt rejects_age_iff.1 takes))
    refine settles_of_success accepts clear fun arriving arrives => ?_
    obtain ⟨prepared, prepares, body, user, view⟩ := exists_prepare_user List.mem_cons_self
      arrives (rfl : (ageLeaf policy).endpoint.declares.params = _)
    obtain ⟨age, read⟩ := exists_readBody_age arrives body
    refine ⟨prepared, prepares, ?_⟩
    show ((userAge prepared draft).lift : Course Event _).Settles _ _
    rw [userAge, view, read]
    exact respond_ok ok

/-- The exchange ends above the leaf with the status of the page, handled unless it is a 500. -/
def ServesPage (policy : ConversionPolicy) (leaf : Leaf) (s : RequestState) (draft : Draft) :
    Prop :=
  let status := pageStatus policy s.method s.remaining s.request.body
  ∃ ending, leaf.Settles s draft ending ∧
    leaf.mended ending = (.ok (decide (status ≠ 500)), some status)

variable {policy : ConversionPolicy}

theorem servesPage_of_settles {leaf : Leaf} {status : Nat}
    (due : pageStatus policy s.method s.remaining s.request.body = status)
    (handled : status ≠ 500) (settles : leaf.Settles s draft (.ok true, some status)) :
    ServesPage policy leaf s draft := by
  refine ⟨_, settles, ?_⟩
  rw [due, Leaf.mended_ok, decide_eq_true handled]

/-- The pages for GET other than the one that fails. -/
theorem servesPage_of_get {leaf : Leaf} (get : leaf.method = .get)
    (elsewhere : ¬ leaf.Accepts .get "/boom") (accepts : leaf.Accepts s.method s.remaining)
    (settles : leaf.Settles s draft (.ok true, some 200)) : ServesPage policy leaf s draft := by
  have method : s.method = .get := accepts.1.trans get
  have path : s.remaining ≠ "/boom" := by
    intro boom
    rw [method, boom] at accepts
    exact elsewhere accepts
  have other : ¬ s.method = .post := by
    rw [method]
    decide
  refine servesPage_of_settles ?_ (by decide) settles
  simp [pageStatus, path, other]

theorem servesPage_boom (accepts : (leafAt "/boom" boom).Accepts s.method s.remaining) :
    ServesPage policy (leafAt "/boom" boom) s draft := by
  obtain ⟨method, cut⟩ := (Leaf.accepts_describe_iff rfl).2 accepts
  have path : s.remaining = "/boom" := (leftOf_literals_iff "/boom" rfl rfl).1 cut
  have due : pageStatus policy s.method s.remaining s.request.body = 500 :=
    if_pos ⟨method, path⟩
  let failure : HandlerError := ⟨s!"demo failure: {s.path} always fails", []⟩
  refine ⟨(Endpoint.resultOf (.error failure), none), settles_leafAt accepts ?_, ?_⟩
  · intro arriving request
    have same : boom arriving draft = .done (.error failure) := by
      rw [boom, RequestState.path, request]
      rfl
    rw [same]
    exact Course.done_settles _
  · rw [due]
    rfl

theorem servesPage_ageLeaf (accepts : (ageLeaf policy).Accepts s.method s.remaining)
    (ok : draft.status = 200) : ServesPage policy (ageLeaf policy) s draft := by
  obtain ⟨method, cut⟩ := (accepts_describe_user_iff rfl rfl rfl rfl rfl rfl).2 accepts
  have post : s.method = .post := method
  have path : UserPath "/age" s.remaining :=
    (leftOf_userPage_iff "/user/:userId/age" "/age" rfl rfl rfl).1 cut
  have other : ¬ s.method = .get := by
    rw [post]
    decide
  refine servesPage_of_settles ?_ ?_ (settles_ageLeaf accepts ok)
  · rw [pageStatus, if_neg fun failing => other failing.1]
    simp [post, path]
  · split <;> decide

theorem servesPage_of_accepts {settings : Settings} {leaf : Leaf}
    (listed : leaf ∈ (application settings).leaves) (accepts : leaf.Accepts s.method s.remaining)
    (ok : draft.status = 200) : ServesPage settings.bodyPolicy leaf s draft := by
  rw [leaves_application] at listed
  simp only [List.mem_cons, List.not_mem_nil, or_false] at listed
  rcases listed with rfl | rfl | rfl | rfl | rfl | rfl | rfl | rfl
  · exact servesPage_of_get rfl (by decide) accepts
      (settles_leafAt accepts fun _ _ => respond_ok ok)
  · exact servesPage_of_get rfl (by decide) accepts
      (settles_leafAt accepts fun _ _ => respond_ok ok)
  · exact servesPage_of_get rfl (by decide) accepts (settles_greetLeaf accepts ok)
  · exact servesPage_of_get rfl (by decide) accepts (settles_nameLeaf accepts ok)
  · exact servesPage_ageLeaf accepts ok
  · exact servesPage_of_get rfl (by decide) accepts
      (settles_leafAt accepts fun _ _ => respond_ok ok)
  · exact servesPage_boom accepts
  · exact servesPage_of_get rfl (by decide) accepts
      (settles_leafAt accepts fun _ _ => Course.readMeter_settles fun _ => respond_ok ok)

end Leaves

/-! ## The router -/

def site (settings : Settings) : Router :=
  ⟨application settings, settings, table⟩

theorem router_eq (settings : Settings) : router settings = .ok (site settings) := rfl

theorem standard_application (settings : Settings) : (application settings).Standard :=
  ⟨trivial, trivial, trivial, trivial, trivial, trivial, trivial, ⟨trivial, trivial⟩,
    ⟨trivial, ⟨trivial, trivial⟩, trivial⟩, trivial, trivial, trivial, trivial⟩

theorem stack_application (settings : Settings) : (application settings).stack =
    [.metrics meter, .tracing, .profile, .serverFault] ++ .notFound :: [] := rfl

section Requests

variable {settings : Settings} {request : Request} {sink : Sink} (takesAll : sink.TakesAll)
  (fresh : RequestId) (log : Log) (admits : (site settings).Admits request)
include takesAll admits

theorem responds_not_found (refused : ¬ ∃ d ∈ table, d.Accepts request.method request.path) :
    ∃ response, response.status = 404 ∧
      (site settings).Responds sink fresh request log true response := by
  rw [← accepts_application_iff settings, Bool.not_eq_true] at refused
  refine ⟨_, rfl, Router.responds_of_refused takesAll fresh log admits
    (stack_application settings) ?_ ?_ ?_ refused⟩
  · simp
  · simp [Layer.Standard]
  · simp [Layer.Rejects]

theorem responds_page (accepted : ∃ d ∈ table, d.Accepts request.method request.path) :
    ∃ response, response.status =
        pageStatus settings.bodyPolicy request.method request.path request.body ∧
      (site settings).Responds sink fresh request log (decide (response.status ≠ 500))
        response := by
  rw [← accepts_application_iff settings] at accepted
  cases first : (application settings).firstLeaf request.method request.path with
  | none =>
    rw [RouteTree.accepts_eq_false_of_firstLeaf first] at accepted
    cases accepted
  | some leaf =>
    have accepts : leaf.Accepts request.method request.path := by
      simpa using List.find?_some first
    have served : ServesPage settings.bodyPolicy leaf ((site settings).entry fresh request)
        ((site settings).firstDraft fresh request) :=
      servesPage_of_accepts (List.mem_of_find?_eq_some first) accepts rfl
    obtain ⟨ending, settles, mended⟩ := served
    obtain ⟨response, status, responds⟩ := Router.responds_of_settles takesAll fresh log admits
      (standard_application settings) first settles mended
    refine ⟨response, status, ?_⟩
    rw [status]
    exact responds

end Requests

/-- The demo answers every request once. Under any settings the application passes its check, and
its table lists the described routes, which take the requests that it has a page for. Against a sink
that takes all, each request gets one response: 400 for an illegal target, else 413 for a body that
is too long, else 500 for the page that fails, else 404 where no described route takes the request,
else 400 for an age with a body that its parser rejects, else 200. Only the 500 counts as not
handled. -/
theorem router_answers (settings : Settings) :
    ∃ r, router settings = .ok r ∧ r.settings = settings ∧ r.routes = table ∧
      (∀ method path, (∃ d ∈ table, d.Accepts method path) ↔ Page method path) ∧
      ∀ sink : Sink, sink.TakesAll → ∀ fresh request log, ∃ response,
        response.status = dueStatus settings request ∧
          r.Responds sink fresh request log (decide (response.status ≠ 500)) response := by
  refine ⟨site settings, router_eq settings, rfl, rfl, fun _ _ => exists_accepts_iff,
    fun sink takesAll fresh request log => ?_⟩
  by_cases legal : Router.isLegalTarget request.target.toList = true
  case neg =>
    rw [dueStatus, if_pos fun absolute => legal (Router.isLegalTarget_iff.2 absolute)]
    exact ⟨Router.rejection _ fresh request 400 _, rfl,
      Router.responds_of_illegal takesAll fresh log (Bool.eq_false_iff.2 legal)⟩
  rw [dueStatus, if_neg (not_not.2 (Router.isLegalTarget_iff.1 legal))]
  by_cases long : settings.maxBodyBytes < request.body.length
  case pos =>
    rw [if_pos long]
    exact ⟨Router.rejection _ fresh request 413 _, rfl,
      Router.responds_of_long takesAll fresh log legal long⟩
  have admits : (site settings).Admits request := ⟨legal, Nat.not_lt.1 long⟩
  rw [if_neg long]
  by_cases accepted : ∃ d ∈ table, d.Accepts request.method request.path
  · obtain ⟨response, status, responds⟩ := responds_page takesAll fresh log admits accepted
    refine ⟨response, ?_, responds⟩
    rw [status, if_neg (not_not.2 accepted), pageStatus]
  · obtain ⟨response, status, responds⟩ := responds_not_found takesAll fresh log admits accepted
    have elsewhere : ¬ (request.method = .get ∧ request.path = "/boom") := by
      rintro ⟨method, path⟩
      rw [exists_accepts_iff, method, path] at accepted
      exact accepted .boom
    refine ⟨response, ?_, ?_⟩
    · rw [status, if_neg elsewhere, if_pos accepted]
    · rw [status]
      exact responds

theorem router_answers_under_strict_policy :
    let settings : Settings := { bodyPolicy := .strict, maxBodyBytes := 4 }
    let age (body : List UInt8) : Request := ⟨.post, "/user/ann/age?v=1", [], body⟩
    let due : List (Nat × Request) :=
      [(400, ⟨.get, "/static/../boom", [], []⟩), (413, age [9, 9, 9, 9, 9]),
        (500, ⟨.get, "/boom", [], []⟩), (404, ⟨.post, "/boom", [], []⟩), (400, age [9]),
        (200, ⟨.get, "/user/ann/name", [], [9]⟩)]
    Sink.memory.TakesAll ∧ ∃ r, router settings = .ok r ∧ ∀ e ∈ due, ∃ response,
      response.status = e.1 ∧
        r.Responds .memory default e.2 {} (decide (e.1 ≠ 500)) response := by
  intro settings age due
  have takesAll : Sink.memory.TakesAll := fun _ _ => rfl
  have statuses : ∀ e ∈ due, dueStatus settings e.2 = e.1 := by decide +kernel
  obtain ⟨r, built, -, -, -, answers⟩ := router_answers settings
  refine ⟨takesAll, r, built, fun e listed => ?_⟩
  obtain ⟨response, same, responds⟩ := answers .memory takesAll default e.2 {}
  rw [statuses e listed] at same
  rw [same] at responds
  exact ⟨response, same, responds⟩

end RequestRouter.Demo
