import RequestRouter.Proofs.Table.Stored
import RequestRouter.Record.Conversion

/-!
# Conversion in one pass

A conversion can take down all its outputs during a single walk over the target and the record: each
step adds to one or two of them, the strict policy stops at the first value that does not coerce,
and missing names are looked at when the walk is over. Main statement: this comes to the same as
the conversion, whose outputs are said one by one.
-/

namespace RequestRouter

/-- What a conversion has taken down so far, in stored form. -/
structure Tally where
  fields : List (Entry Json) := []
  extras : List (Entry Json) := []
  missing : List String := []
  mistyped : List String := []

namespace Tally

def take (policy : ConversionPolicy) (t : Tally) :
    Joined FieldKind Json → Except RecordError Tally
  | .both name kind v =>
    match kind.coerce v, policy with
    | some w, _ => .ok { t with fields := t.fields ++ [(name, w)] }
    | none, .strict => .error (.mistyped name kind)
    | none, .lenient => .ok { t with
        fields := t.fields ++ [(name, kind.defaultValue)]
        mistyped := t.mistyped ++ [name] }
  | .left name kind => .ok { t with
      fields := t.fields ++ [(name, kind.defaultValue)]
      missing := t.missing ++ [name] }
  | .right name v => .ok { t with extras := Entry.put t.extras name v }

/-- The strict policy lets no missing name pass. -/
def close (t : Tally) (policy : ConversionPolicy) : Except RecordError Tally :=
  match policy with
  | .lenient => .ok t
  | .strict => if t.missing.isEmpty then .ok t else .error (.missingFields t.missing)

def ofWalk (policy : ConversionPolicy) (js : List (Joined FieldKind Json)) :
    Except RecordError Tally :=
  (js.foldlM (take policy) {}).bind fun t => t.close policy

@[simp] def missingName : Joined FieldKind Json → Option String
  | .left name _ => some name
  | _ => none

@[simp] def extra : Joined FieldKind Json → Option Json
  | .right _ v => some v
  | _ => none

/-- What a walk adds if nothing stops it. -/
def add (t : Tally) (js : List (Joined FieldKind Json)) : Tally where
  fields := t.fields ++ js.filterMap fun j => (Conversion.field j).map (j.name, ·)
  extras := t.extras ++ js.filterMap fun j => (extra j).map (j.name, ·)
  missing := t.missing ++ js.filterMap missingName
  mistyped := t.mistyped ++ (js.filterMap Conversion.failure).map Prod.fst

theorem add_nil (t : Tally) : t.add [] = t := by
  simp [add]

theorem add_append (t : Tally) (js ks : List (Joined FieldKind Json)) :
    t.add (js ++ ks) = (t.add js).add ks := by
  simp [add]

theorem mem_extras_add {t : Tally} {js : List (Joined FieldKind Json)} {e : Entry Json}
    (h : e ∈ (t.add js).extras) : e ∈ t.extras ∨ ∃ j ∈ js, j.name = e.1 := by
  refine (List.mem_append.1 h).imp_right fun added => ?_
  obtain ⟨j, walked, made⟩ := List.mem_filterMap.1 added
  obtain ⟨v, -, rfl⟩ := Option.map_eq_some_iff.1 made
  exact ⟨j, walked, rfl⟩

/-- The first of the failures stops a strict walk. -/
def objection (policy : ConversionPolicy) (failures : List (Entry FieldKind)) :
    Except RecordError Unit :=
  match policy, failures with
  | .strict, (name, kind) :: _ => .error (.mistyped name kind)
  | _, _ => .ok ()

/-- One step, beyond the extras that are taken down already. -/
theorem take_eq (policy : ConversionPolicy) {t : Tally} {j : Joined FieldKind Json}
    (beyond : ∀ e ∈ t.extras, e.1 < j.name) :
    t.take policy j = (objection policy (Conversion.failure j).toList).map fun _ => t.add [j] := by
  cases j with
  | left name kind =>
    cases policy <;> simp [take, objection, add, Conversion.failure, Conversion.field, Joined.name,
      Except.map]
  | right name v =>
    have put : Entry.put t.extras name v = t.extras ++ [(name, v)] := Entry.put_of_forall_lt beyond
    cases policy <;> simp [take, put, objection, add, Conversion.failure, Conversion.field,
      Joined.name, Except.map]
  | both name kind v =>
    -- the strict policy stops at the value exactly if it does not coerce
    cases coerced : kind.coerce v with
    | some w =>
      cases policy <;> simp [take, coerced, objection, add, Conversion.failure, Conversion.field,
        Joined.name, Except.map]
    | none =>
      cases policy <;> simp [take, coerced, objection, add, Conversion.failure, Conversion.field,
        Joined.name, Except.map]

/-- A run of steps over increasing names, beyond the extras that are taken down already. -/
theorem foldlM_take_eq (policy : ConversionPolicy) {t : Tally}
    {js : List (Joined FieldKind Json)} (increasing : js.Pairwise fun i j => i.name < j.name)
    (beyond : ∀ e ∈ t.extras, ∀ j ∈ js, e.1 < j.name) :
    js.foldlM (take policy) t =
      (objection policy (js.filterMap Conversion.failure)).map fun _ => t.add js := by
  induction js generalizing t with
  | nil =>
    rw [add_nil]
    cases policy <;> rfl
  | cons j js ih =>
    obtain ⟨after, others⟩ := List.pairwise_cons.1 increasing
    have step := take_eq policy fun e member => beyond e member j List.mem_cons_self
    have rest := ih (t := t.add [j]) others fun e member k later => by
      rcases mem_extras_add member with earlier | ⟨i, own, same⟩
      · exact beyond e earlier k (List.mem_cons_of_mem j later)
      · rw [← same, List.mem_singleton.1 own]
        exact after k later
    rw [← add_append, List.singleton_append] at rest
    rw [List.foldlM_cons, step, List.filterMap_cons]
    cases failed : Conversion.failure j with
    | none => cases policy <;> exact rest
    | some e =>
      cases policy with
      | lenient => exact rest
      | strict => rfl

end Tally

def Conversion.tally (c : Conversion) : Tally where
  fields := c.record.entries
  extras := c.extras.entries
  missing := c.missing
  mistyped := c.mistyped

namespace Record

/-- The subtraction, walked from the other side. -/
theorem subtract_eq_combine (r : Record) (target : Schema) :
    r.subtract target = Table.combine Tally.extra target r := by
  refine Table.ext_get? fun name => ?_
  rw [Table.get?_subtract, Table.get?_combine, Table.joinedAt]
  cases target.get? name <;> cases r.get? name <;> rfl

theorem names_subtract_eq (r : Record) (target : Schema) :
    (target.subtract r).names = (join target.entries r.entries).filterMap Tally.missingName := by
  rw [Table.names, Entry.names, Table.subtract, Table.combine, List.map_filterMap]
  congr 1
  funext j
  cases j <;> rfl

theorem tally_fit (r : Record) (target : Schema) :
    (r.fit target).tally = Tally.add {} (join target.entries r.entries) := by
  have extras := congrArg Table.entries (subtract_eq_combine r target)
  have missing := names_subtract_eq r target
  simp only [Conversion.tally, fit, extras, missing, Tally.add, List.nil_append]
  rfl

theorem convert_strict_of_failure {r : Record} {target : Schema} {name : String}
    {kind : FieldKind} {rest : List (Entry FieldKind)}
    (found : r.failures target = (name, kind) :: rest) :
    r.convert target .strict = .error (.mistyped name kind) := by
  simp only [convert, found]

theorem convert_strict_of_coerces {r : Record} {target : Schema}
    (coerces : r.failures target = []) :
    r.convert target .strict =
      if (r.fit target).missing.isEmpty then .ok (r.fit target)
      else .error (.missingFields (r.fit target).missing) := by
  simp only [convert, coerces]

/-- A conversion is what one walk over the target and the record takes down, up to the first value
that stops it. -/
theorem convert_eq_ofWalk (r : Record) (target : Schema) (policy : ConversionPolicy) :
    (r.convert target policy).map Conversion.tally =
      Tally.ofWalk policy (join target.entries r.entries) := by
  have walked : (join target.entries r.entries).foldlM (Tally.take policy) {} =
      (Tally.objection policy (r.failures target)).map fun _ => (r.fit target).tally := by
    rw [tally_fit]
    exact Tally.foldlM_take_eq policy (join_increasing target.increasing r.increasing) (by simp)
  rw [Tally.ofWalk, walked]
  cases policy with
  | lenient => rfl
  | strict =>
    cases found : r.failures target with
    | cons first rest =>
      rw [convert_strict_of_failure found]
      rfl
    | nil =>
      rw [convert_strict_of_coerces found, apply_ite (Except.map Conversion.tally)]
      rfl

end Record

end RequestRouter
