import RequestRouter.Proofs.Table.Algebra
import RequestRouter.Record.Basic

/-!
# The algebra of records and schemas

Records and schemas are combined by the same walks. Main statements: what the walk and the four
operations do to any two tables, with the laws that hold between the operations, and that the schema
of a combined record is the combination of the schemas.
-/

namespace RequestRouter

universe u v

namespace Schema

def clash : Joined FieldKind FieldKind → Option Unit
  | .both _ x y => if kindsConflict x y then some () else none
  | _ => none

theorem kindConflicts_eq (a b : Schema) :
    a.kindConflicts b = (Table.combine clash a b).names := by
  rw [kindConflicts, Table.names, Entry.names, Table.combine, List.map_filterMap]
  congr 1
  funext j
  cases j with
  | left _ _ | right _ _ => rfl
  | both name x y =>
    by_cases conflict : kindsConflict x y
    · simp [clash, conflict, Joined.name]
    · simp [clash, conflict]

theorem kindConflicts_increasing (a b : Schema) : (a.kindConflicts b).Pairwise (· < ·) := by
  rw [kindConflicts_eq]
  exact Table.names_pairwise _

theorem kindsConflict_iff {x y : FieldKind} :
    kindsConflict x y = true ↔ x ≠ y ∧ x ≠ .any ∧ y ≠ .any := by
  simp [kindsConflict, and_assoc]

theorem mem_kindConflicts {a b : Schema} {name : String} :
    name ∈ a.kindConflicts b ↔ ∃ x y, a.get? name = some x ∧ b.get? name = some y ∧
      x ≠ y ∧ x ≠ .any ∧ y ≠ .any := by
  rw [kindConflicts_eq, Table.mem_names_iff]
  simp only [Table.get?_combine, Table.joinedAt, ← kindsConflict_iff]
  cases a.get? name with
  | none => cases b.get? name <;> simp [clash]
  | some x =>
    cases b.get? name with
    | none => simp [clash]
    | some y => by_cases conflict : kindsConflict x y <;> simp [clash, conflict]

theorem kindConflicts_comm (a b : Schema) : a.kindConflicts b = b.kindConflicts a := by
  refine List.Pairwise.eq_of_mem_iff (kindConflicts_increasing a b) (kindConflicts_increasing b a)
    fun name => ?_
  rw [mem_kindConflicts, mem_kindConflicts]
  constructor
  · rintro ⟨x, y, left, right, different, narrowX, narrowY⟩
    exact ⟨y, x, right, left, different.symm, narrowY, narrowX⟩
  · rintro ⟨x, y, left, right, different, narrowX, narrowY⟩
    exact ⟨y, x, right, left, different.symm, narrowY, narrowX⟩

end Schema

/-- Two tables of any values, combined. The walk over them yields their full outer join and ends;
the union has the newer entry of a name or else the older one, the intersection the left entries
that the right side has too, the difference the entries of the only side that has the name, the
subtraction the left entries that the right side lacks. So the union is associative and idempotent,
with the empty table as its unit; what is subtracted and what is shared make up the whole; the
difference joins both subtractions, and the sides may change places in it, as they may in the
union as far as names go. Of two schemas, the conflicts are the shared names of different kinds
other than `any`. -/
theorem merge_algebra {α : Type u} {β : Type v} (a b c : Table α) (d : Table β) (s t : Schema) :
    (∃ js, (∀ ks, (MergeWalk.mk a.entries d.entries).Yields ks ↔ ks = js) ∧
      Joined.Full a.entries d.entries js) ∧
    (∀ name,
      (a.union b).get? name = (b.get? name).or (a.get? name) ∧
      (a.intersection d).get? name = (if (d.get? name).isSome then a.get? name else none) ∧
      (a.difference b).get? name =
        (if (a.get? name).isSome && (b.get? name).isSome then none
          else (a.get? name).or (b.get? name)) ∧
      (a.subtract d).get? name = (if (d.get? name).isSome then none else a.get? name)) ∧
    (a.union b).union c = a.union (b.union c) ∧ a.union a = a ∧
    a.union .empty = a ∧ Table.empty.union a = a ∧
    (a.subtract d).union (a.intersection d) = a ∧
    a.difference b = (a.subtract b).union (b.subtract a) ∧ a.difference b = b.difference a ∧
    (a.union b).names = (b.union a).names ∧
    s.kindConflicts t = t.kindConflicts s ∧ (s.kindConflicts t).Pairwise (· < ·) ∧
    ∀ name, name ∈ s.kindConflicts t ↔ ∃ x y, s.get? name = some x ∧ t.get? name = some y ∧
      x ≠ y ∧ x ≠ .any ∧ y ≠ .any := by
  have walked : ∃ js, (∀ ks, (MergeWalk.mk a.entries d.entries).Yields ks ↔ ks = js) ∧
      Joined.Full a.entries d.entries js :=
    ⟨join a.entries d.entries, fun _ => MergeWalk.yields_iff, join_full a.increasing d.increasing⟩
  exact ⟨walked, fun _ => ⟨Table.get?_union, Table.get?_intersection, Table.get?_difference,
      Table.get?_subtract⟩,
    Table.union_assoc a b c, Table.union_self a, Table.union_empty a, Table.empty_union a,
    Table.union_subtract_intersection a d, Table.difference_eq_union_subtract a b,
    Table.difference_comm a b, Table.names_union_comm a b, Schema.kindConflicts_comm s t,
    Schema.kindConflicts_increasing s t, fun _ => Schema.mem_kindConflicts⟩

namespace Record

/-- The schema of a combination is the combination of the schemas, also where both sides have a
name: the same side wins at both levels. -/
theorem schema_combinations (a b : Record) (s : Schema) (name : String) (v : Json) :
    schema (a.union b) = a.schema.union b.schema ∧
      schema (a.intersection b) = a.schema.intersection b.schema ∧
      schema (a.difference b) = a.schema.difference b.schema ∧
      schema (a.subtract b) = a.schema.subtract b.schema ∧
      schema (a.insert name v) = a.schema.union (.single name (FieldKind.of v)) ∧
      schema (a.project s) = a.schema.intersection s := by
  have projected : schema (a.project s) = a.schema.intersection (s.map id) :=
    Table.map_intersection FieldKind.of id a s
  rw [Table.map_id] at projected
  exact ⟨Table.map_union _ a b, Table.map_intersection _ _ a b, Table.map_difference _ a b,
    Table.map_subtract _ _ a b, Table.map_insert _ a name v, projected⟩

/-- The newer value of a name changes its kind in the schema. -/
example : schema (Table.union (.single "n" (.bool true)) (.single "n" (.string "x"))) =
    .single "n" .string := by decide

end Record

end RequestRouter
