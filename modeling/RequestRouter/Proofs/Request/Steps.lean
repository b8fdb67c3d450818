import RequestRouter.Proofs.Request.Path
import RequestRouter.Proofs.Table.Lookup

/-!
# Steps of a request

On its way down a tree a request is handed on with one change after the other. What it was received
with stays as it is, and so does its path, whatever the changes are; only the cut in the path moves,
forward and by whole characters. Main statement: what holds of the request after any steps whose
consumptions end at boundaries of the path.
-/

namespace RequestRouter.RequestState

inductive Step where
  | consume (bytes : Nat)
  | withParams (captures : Record)
  | replaceParams (params : Record)
  | withBody (body : Body)
  | withMixin (name : String) (fields : Record)
  | withExtensions (extras : Extensions)
  | withPolicy (policy : ConversionPolicy)

namespace Step

def apply : Step → RequestState → RequestState
  | .consume bytes, s => s.consume bytes
  | .withParams captures, s => s.withParams captures
  | .replaceParams params, s => s.replaceParams params
  | .withBody body, s => s.withBody body
  | .withMixin name fields, s => s.withMixin name fields
  | .withExtensions extras, s => s.withExtensions extras
  | .withPolicy policy, s => s.withPolicy policy

def mixin? (name : String) : Step → Option Record
  | .withMixin own fields => if own = name then some fields else none
  | _ => none

/-- The cut after the step, in a path of `size` bytes that was cut after `cut` bytes. -/
def moveCut (size cut : Nat) : Step → Nat
  | .consume bytes => min (cut + bytes) size
  | _ => cut

/-- A consumption ends at a boundary of the path, or at or past its end. -/
def Aligned (path : String) (cut : Nat) : Step → Prop
  | .consume bytes => AtBoundary path (cut + bytes)
  | _ => True

end Step

def run (s : RequestState) (steps : List Step) : RequestState :=
  steps.foldl (fun s step => step.apply s) s

/-- Every consumption among the steps is aligned, each from the cut that the steps before it
leave. -/
def AllAligned (path : String) : (cut : Nat) → List Step → Prop
  | _, [] => True
  | cut, step :: rest =>
    step.Aligned path cut ∧ AllAligned path (step.moveCut path.utf8ByteSize cut) rest

/-- What every step keeps: what was received, and the path in two parts. -/
structure Keeps (request : Request) (id : RequestId) (s : RequestState) : Prop where
  request_eq : s.request = request
  id_eq : s.id = id
  whole : s.consumed ++ s.remaining = request.path

variable {request : Request} {id : RequestId} {s : RequestState}

theorem keeps_start (request : Request) (id : RequestId) : (start request id).Keeps request id :=
  ⟨rfl, rfl, String.empty_append⟩

theorem Keeps.apply (h : s.Keeps request id) (step : Step) : (step.apply s).Keeps request id := by
  cases step with
  | consume bytes => exact ⟨h.request_eq, h.id_eq, (s.path_consume bytes).trans h.whole⟩
  | withParams _ | replaceParams _ | withBody _ | withMixin _ _ | withExtensions _ | withPolicy _ =>
    exact ⟨h.request_eq, h.id_eq, h.whole⟩

theorem Keeps.run (h : s.Keeps request id) (steps : List Step) :
    (s.run steps).Keeps request id := by
  induction steps generalizing s with
  | nil => exact h
  | cons step rest ih => exact ih (h.apply step)

theorem Keeps.whole_path (h : s.Keeps request id) : s.consumed ++ s.remaining = s.path := by
  rw [h.whole, path, h.request_eq]

theorem Keeps.consumes (h : s.Keeps request id) {n : Nat}
    (boundary : AtBoundary request.path (s.consumed.utf8ByteSize + n)) :
    s.Consumes n (s.consume n) := by
  refine consumes_of_atBoundary h.whole_path ?_
  rwa [path, h.request_eq]

/-- The consumed part has as many bytes as lie before the cut. -/
theorem Keeps.size_consumed_apply (h : s.Keeps request id) {step : Step}
    (aligned : step.Aligned request.path s.consumed.utf8ByteSize) :
    (step.apply s).consumed.utf8ByteSize =
      step.moveCut request.path.utf8ByteSize s.consumed.utf8ByteSize := by
  cases step with
  | consume bytes =>
    have sizes : request.path.utf8ByteSize =
        s.consumed.utf8ByteSize + s.remaining.utf8ByteSize := by
      rw [← h.whole, String.utf8ByteSize_append]
    rw [Step.apply, (h.consumes aligned).size_eq, Step.moveCut, sizes, Nat.add_min_add_left]
  | withParams _ | replaceParams _ | withBody _ | withMixin _ _ | withExtensions _ | withPolicy _ =>
    rfl

theorem Keeps.size_consumed_run {steps : List Step} (h : s.Keeps request id)
    (aligned : AllAligned request.path s.consumed.utf8ByteSize steps) :
    (s.run steps).consumed.utf8ByteSize =
      steps.foldl (Step.moveCut request.path.utf8ByteSize) s.consumed.utf8ByteSize := by
  induction steps generalizing s with
  | nil => rfl
  | cons step rest ih =>
    obtain ⟨first, others⟩ := aligned
    have moved := h.size_consumed_apply first
    rw [← moved] at others
    rw [List.foldl_cons, ← moved]
    exact ih (h.apply step) others

theorem mixin?_apply (s : RequestState) (step : Step) (name : String) :
    (step.apply s).mixin? name = (step.mixin? name).or (s.mixin? name) := by
  cases step with
  | withMixin own fields =>
    rw [Step.apply, RequestState.mixin?, withMixin, Table.get?_insert, Step.mixin?]
    split <;> rfl
  | consume _ | withParams _ | replaceParams _ | withBody _ | withExtensions _ | withPolicy _ => rfl

/-- A mixin is found as the last step attached it. -/
theorem mixin?_run (s : RequestState) (steps : List Step) (name : String) :
    (s.run steps).mixin? name =
      (steps.reverse.findSome? (Step.mixin? name)).or (s.mixin? name) := by
  induction steps generalizing s with
  | nil => rfl
  | cons step rest ih =>
    have last : (rest.reverse ++ [step]).findSome? (Step.mixin? name) =
        (rest.reverse.findSome? (Step.mixin? name)).or (step.mixin? name) := by
      rw [List.findSome?_append, List.findSome?_singleton]
    rw [List.reverse_cons, last, Option.or_assoc, ← mixin?_apply]
    exact ih (step.apply s)

/-- After any steps the target of a request is its path and, behind it, nothing or a question mark
and the query; the path itself has no question mark. The consumed part and the part that is left are
the path, cut after as many bytes as the steps have consumed, but not behind its end. A further
consumption that ends at a boundary lengthens the consumed part by the bytes that it asks for or by
all that is left, and changes nothing but the cut. What the request was received with has not
changed, and a mixin is what was last attached under its name. -/
theorem run_invariant (request : Request) (id : RequestId) {steps : List Step}
    (aligned : AllAligned request.path 0 steps) :
    let s := (start request id).run steps
    (∃ rest, s.request.target = s.path ++ rest ∧ (rest = "" ∨ ∃ more, rest = "?" ++ more) ∧
      s.query = Query.parse rest) ∧
    '?' ∉ s.path.toList ∧
    s.consumed ++ s.remaining = s.path ∧
    s.consumed.utf8ByteSize = steps.foldl (Step.moveCut s.path.utf8ByteSize) 0 ∧
    (∀ n, AtBoundary s.path (s.consumed.utf8ByteSize + n) → s.Consumes n (s.consume n)) ∧
    (s.method = request.method ∧ s.request.target = request.target ∧ s.path = request.path ∧
      s.request.headers = request.headers ∧ s.query = request.query ∧
      s.request.body = request.body ∧ s.id = id) ∧
    ∀ name, s.mixin? name = steps.reverse.findSome? (Step.mixin? name) := by
  intro s
  have keeps : s.Keeps request id := (keeps_start request id).run steps
  have same : s.path = request.path := congrArg Request.path keeps.request_eq
  refine ⟨s.request.target_eq_path_append, s.request.not_mem_path, keeps.whole_path, ?_,
    fun n boundary => keeps.consumes (same ▸ boundary), ?_, fun name => ?_⟩
  · rw [same]
    exact (keeps_start request id).size_consumed_run aligned
  · have received := keeps.request_eq
    exact ⟨congrArg Request.method received, congrArg Request.target received, same,
      congrArg Request.headers received, congrArg Request.query received,
      congrArg Request.body received, keeps.id_eq⟩
  · rw [mixin?_run]
    exact Option.or_none

/-- A cut behind a character of two bytes, a consumption past the end of the path, and a mixin that
is attached twice. -/
def accentSteps : List Step :=
  [.consume 3, .withMixin "m" (.single "v" (.bool true)), .withMixin "n" .empty, .consume 100,
    .withMixin "m" (.single "v" (.bool false))]

theorem run_invariant_accent :
    let request : Request := { method := .get, target := "/é/x?q=1" }
    let s := (start request default).run accentSteps
    AllAligned request.path 0 accentSteps ∧ s.path = "/é/x" ∧
      s.consumed ++ s.remaining = "/é/x" ∧ s.consumed.utf8ByteSize = 5 ∧
      s.Consumes 7 (s.consume 7) ∧ s.method = .get ∧
      s.mixin? "m" = some (.single "v" (.bool false)) ∧ s.mixin? "o" = none := by
  intro request s
  have path : request.path = "/é/x" := by decide +kernel
  have first : AtBoundary "/é/x" 3 :=
    Or.inr (Utf8.isValid_length (a := ['/', 'é']) (b := ['/', 'x']) rfl)
  have second : AtBoundary "/é/x" 103 := Or.inl (by decide)
  have aligned : AllAligned request.path 0 accentSteps := by
    rw [path]
    exact ⟨first, trivial, trivial, second, trivial, trivial⟩
  obtain ⟨-, -, whole, size, consumes, ⟨method, -, same, -⟩, mixins⟩ :=
    run_invariant request default aligned
  have kept : s.path = "/é/x" := same.trans path
  have five : s.consumed.utf8ByteSize = 5 := by
    rw [size, kept]
    decide
  have past : AtBoundary s.path (s.consumed.utf8ByteSize + 7) := by
    rw [kept, five]
    exact Or.inl (by decide)
  exact ⟨aligned, kept, whole.trans kept, five, consumes 7 past, method, mixins "m", mixins "o"⟩

end RequestRouter.RequestState
