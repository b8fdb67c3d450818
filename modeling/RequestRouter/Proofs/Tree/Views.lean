import RequestRouter.Proofs.Record.Fitting
import RequestRouter.Proofs.Tree.BodyParser
import RequestRouter.Proofs.Tree.CapturedText

/-!
# Typed views

A handler reads its parameters and its body in a shape of its own. What a pattern has bound is text
when the request arrives, and what a body parser has made of the body fits the parser's schema. So a
view that asks for no more than the schema promises does not fail.
-/

namespace RequestRouter

/-- Every value that is settled in the kind can be read in the shape. -/
def Shape.Serves (shape : Shape) (kind : FieldKind) : Prop :=
  ∀ v, kind.coerce v = some v → ∃ w, shape.read v = .ok w

theorem Shape.text_serves : Shape.text.Serves .string := by
  intro v settled
  cases v with
  | string s => exact ⟨_, rfl⟩
  | number _ | bool _ => cases settled
  | null | array _ | object _ => cases settled

theorem Shape.int64_serves : Shape.int64.Serves .integer := by
  intro v settled
  cases v with
  | number n =>
    obtain ⟨m, small, same⟩ := Option.map_eq_some_iff.1 settled
    cases n with
    | double x finite => cases small
    | integer n lower upper =>
      simp only [Number.int64?, Option.ite_none_right_eq_some] at small
      have bounds : -0x8000000000000000 ≤ n ∧ n ≤ 0x7FFFFFFFFFFFFFFF :=
        ⟨lower, Int.le_of_lt_add_one small.1⟩
      exact ⟨_, if_pos bounds⟩
  | string s =>
    have kind := FieldKind.of_eq_of_coerce_self (by decide) settled
    cases kind
  | null | bool _ | array _ | object _ => cases settled

namespace Record

/-- A record that has every declared field, and each of them in its shape, is read. -/
theorem exists_readStruct {r : Record} {declared : List (String × Shape)}
    (covered : ∀ d ∈ declared, d.1 ∈ r.names)
    (serves : ∀ name shape v, declared.lookup name = some shape → r.get? name = some v →
      ∃ w, shape.read v = .ok w) : ∃ view, r.readStruct declared = .ok view := by
  have absent : declared.filter (fun d => !r.contains d.1) = [] := by
    refine List.filter_eq_nil_iff.2 fun d listed => ?_
    obtain ⟨v, held⟩ := Table.mem_names_iff.1 (covered d listed)
    simp [Table.contains, held]
  unfold readStruct
  simp only [except_bind_eq_ok_iff, absent]
  rw [exists_comm]
  refine Exists.imp (fun entries read => ⟨_, read, [], rfl, rfl⟩)
    (except_exists_filterMapM fun (name, v) listed => ?_)
  dsimp only
  cases own : declared.lookup name with
  | none => exact ⟨none, rfl⟩
  | some shape =>
    obtain ⟨w, read⟩ := serves name shape v own (Table.get?_eq_some_iff.2 listed)
    dsimp only
    rw [read]
    exact ⟨some (name, w), rfl⟩

/-- A view of no more than a schema declares, on a record that fits the schema. -/
theorem exists_readStruct_of_fits {r : Record} {target : Schema} (fits : r.Fits target)
    {declared : List (String × Shape)}
    (serves : ∀ d ∈ declared, ∃ kind, target.get? d.1 = some kind ∧ d.2.Serves kind) :
    ∃ view, r.readStruct declared = .ok view := by
  refine exists_readStruct (fun d listed => ?_) fun name shape v own held => ?_
  · obtain ⟨kind, promised, -⟩ := serves d listed
    rw [fits.names_eq]
    exact Table.mem_names_iff.2 ⟨kind, promised⟩
  · obtain ⟨before, after, split, -⟩ := List.lookup_eq_some_iff.1 own
    obtain ⟨kind, promised, reads⟩ := serves (name, shape) (by simp [split])
    exact reads v (fits.settled name kind v promised held)

/-- Without number fields, what a conversion makes fits its target. -/
theorem fits_of_convert {r : Record} {target : Schema} {policy : ConversionPolicy}
    {c : Conversion} (made : r.convert target policy = .ok c)
    (noNumbers : ∀ name, target.get? name ≠ some .number) : c.record.Fits target := by
  rw [eq_fit_of_convert made]
  exact fits_fit fun name lost => noNumbers name lost.1

theorem exists_convert {r : Record} {target : Schema}
    (coerces : ∀ name kind, target.get? name = some kind →
      ∃ v, r.get? name = some v ∧ kind.coerce v ≠ none) (policy : ConversionPolicy) :
    ∃ c, r.convert target policy = .ok c := by
  cases policy with
  | lenient => exact ⟨_, rfl⟩
  | strict =>
    cases converted : r.convert target .strict with
    | ok c => exact ⟨c, rfl⟩
    | error cause =>
      obtain ⟨name, kind, declared, refuses⟩ := convert_strict_fails_iff.1 ⟨cause, converted⟩
      obtain ⟨v, given, made⟩ := coerces name kind declared
      exact absurd (refuses v given) made

end Record

namespace Pattern

theorem names_of_capturesOf {source path : String} {p : Pattern} (compiled : compile source = .ok p)
    {own : Record} (captured : capturesOf source path = some own) :
    own.names = p.schema.names := by
  simp only [capturesOf, compiled] at captured
  obtain ⟨m, found, rfl⟩ := Option.map_eq_some_iff.1 captured
  obtain ⟨value, -, holds⟩ := matchPrefix_some (compiled_of_compile compiled) found
  exact holds.names_eq

/-- A parameter that is bound to text stays so under captures, which are text, and a parameter of
one of the patterns becomes so. -/
theorem text_unionAll {sources : List String} {path : String} {captures : List Record}
    (h : capturesAlong sources path = some captures) {params : Record} {name : String}
    (bound : (∃ text, params.get? name = some (.string text)) ∨
      ∃ source ∈ sources, ∃ p, compile source = .ok p ∧ name ∈ p.params) :
    ∃ text, (params.unionAll captures).get? name = some (.string text) := by
  induction sources generalizing path captures params with
  | nil =>
    cases h
    exact bound.resolve_right (by simp)
  | cons source sources ih =>
    simp only [capturesAlong, Option.bind_eq_bind, Option.bind_eq_some_iff] at h
    obtain ⟨own, captured, left, -, inner, further, eq⟩ := h
    cases eq
    refine ih further ?_
    rw [Table.get?_union]
    cases held : own.get? name with
    | some v =>
      obtain ⟨text, rfl, -⟩ := capturesText_of_capturesOf captured name v held
      exact Or.inl ⟨text, rfl⟩
    | none =>
      refine bound.imp_right ?_
      rintro ⟨other, listed, p, compiled, param⟩
      rcases List.mem_cons.1 listed with rfl | later
      · have named : name ∈ own.names := by
          rw [names_of_capturesOf compiled captured]
          exact ((compiled_of_compile compiled).mem_names).2 param
        exact absurd named (Table.get?_eq_none_iff.1 held)
      · exact ⟨other, later, p, compiled, param⟩

end Pattern

namespace Leaf

/-- A parameter of a pattern on the way is bound to text when the request arrives. -/
theorem text_of_arrive {leaf : Leaf} {s arriving : RequestState}
    (arrives : leaf.arrive s = some arriving) {source : String} (onWay : source ∈ leaf.patterns)
    {p : Pattern} (compiled : Pattern.compile source = .ok p) {name : String}
    (listed : name ∈ p.params) : ∃ text, arriving.params.get? name = some (.string text) := by
  obtain ⟨captures, carried⟩ := carried_of_arrive arrives
  rw [carried.params_eq]
  exact Pattern.text_unionAll carried.captures_eq (Or.inr ⟨source, onWay, p, compiled, listed⟩)

end Leaf

/-- An endpoint gets the text parameters that it declares, under either policy. -/
theorem Endpoint.exists_prepare {d : Declaration} {s : RequestState}
    (declares : ¬ d.params.isEmpty = true)
    (texts : ∀ name kind, d.params.get? name = some kind →
      kind = .string ∧ ∃ text, s.params.get? name = some (.string text)) :
    ∃ prepared, prepare d s = .ok prepared ∧ prepared.params.Fits d.params ∧
      prepared.body = s.body := by
  have coerces (name kind) (declared : d.params.get? name = some kind) :
      ∃ v, s.params.get? name = some v ∧ kind.coerce v ≠ none := by
    obtain ⟨rfl, text, held⟩ := texts name kind declared
    exact ⟨_, held, nofun⟩
  obtain ⟨c, converted⟩ := Record.exists_convert coerces (d.policy.getD s.policy)
  refine ⟨(s.replaceParams c.record).withExtensions c.extras, ?_,
    Record.fits_of_convert converted fun name number => ?_, rfl⟩
  · rw [prepare, if_neg declares, converted]
    rfl
  · cases (texts name .number number).1

end RequestRouter
