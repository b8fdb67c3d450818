import RequestRouter.Proofs.Except
import RequestRouter.Proofs.Table.Collected
import RequestRouter.Record.Basic

/-!
# The ways to make a record

A record comes from pairs that are sorted and must be distinct, from pairs of which the last of each
name is kept, from one field set after the other, or from an object. Main statement: they agree
wherever more than one of them applies, whatever the order of the pairs.
-/

namespace RequestRouter.Record

variable {pairs other : List (Entry Json)} {r : Record}

theorem ofPairs_eq_ok_iff : ofPairs pairs = .ok r ↔ Table.ofDistinct pairs = .ok r :=
  except_mapError_eq_ok_iff

theorem exists_ofPairs_iff : (∃ r, ofPairs pairs = .ok r) ↔ (Entry.names pairs).Nodup := by
  simp only [ofPairs_eq_ok_iff]
  exact Table.exists_ofDistinct_iff

theorem ofPairs_of_perm (same : other.Perm pairs) (made : ofPairs pairs = .ok r) :
    ofPairs other = .ok r :=
  ofPairs_eq_ok_iff.2 (Table.ofDistinct_of_perm same (ofPairs_eq_ok_iff.1 made))

theorem entries_perm_of_ofPairs (made : ofPairs pairs = .ok r) : r.entries.Perm pairs := by
  rw [Table.ofDistinct_entries (ofPairs_eq_ok_iff.1 made)]
  exact Entry.sorted_perm pairs

theorem collect_of_ofPairs (made : ofPairs pairs = .ok r) : Table.collect pairs = r :=
  Table.collect_of_ofDistinct (ofPairs_eq_ok_iff.1 made)

theorem ofJson_toJson (r : Record) : ofJson r.toJson = .ok r :=
  congrArg Except.ok (Table.ofList_entries r)

/-- The members of an object stand in the order of their names, as do the fields made of them. -/
theorem toJson_ofList {members : List (String × Json)} (ordered : Increasing members) :
    toJson (Table.ofList members) = .object members :=
  congrArg toJson (Table.ofList_entries ⟨members, ordered⟩)

/-- Pairs make a record if and only if their names are distinct. The record then has these pairs
and no others; it is the one that the pairs make in any other order, the one that is collected from
them, and the one that results when one after the other is set in the empty record. Where names
repeat, what is collected by sorting and what is set one after the other is still the same, with the
last value of each name. A record is made again of the object that it is written as; an object
always makes a record, which is written as that object if its members are in order. -/
theorem constructors_agree (pairs : List (Entry Json)) :
    let set := pairs.foldl (fun r e => r.insert e.1 e.2) Table.empty
    ((∃ r, ofPairs pairs = .ok r) ↔ (Entry.names pairs).Nodup) ∧
    (∀ r, ofPairs pairs = .ok r → r.entries.Perm pairs ∧ Table.collect pairs = r ∧ set = r ∧
      ∀ other, other.Perm pairs → ofPairs other = .ok r) ∧
    Table.collect pairs = set ∧ Table.ofList pairs = set ∧
    (∀ name, set.get? name = pairs.reverse.lookup name) ∧
    (∀ r : Record, ofJson r.toJson = .ok r) ∧
    ∀ members, ∃ r, ofJson (.object members) = .ok r ∧
      (Increasing members → r.toJson = .object members) := by
  intro set
  have collected : Table.collect pairs = set := Table.collect_eq_ofList pairs
  refine ⟨exists_ofPairs_iff, fun r made => ?_, collected, rfl, fun name => Table.get?_ofList,
    ofJson_toJson, fun members => ⟨_, rfl, toJson_ofList⟩⟩
  have same : Table.collect pairs = r := collect_of_ofPairs made
  exact ⟨entries_perm_of_ofPairs made, same, collected.symm.trans same,
    fun other moved => ofPairs_of_perm moved made⟩

/-- Two pairs in either order, an object of them, and a third pair of a name that is given. -/
theorem constructors_agree_of_two :
    let pairs : List (Entry Json) := [("b", .bool true), ("a", .string "x")]
    let members : List (String × Json) := [("a", .string "x"), ("b", .bool true)]
    let again := pairs ++ [("b", .bool false)]
    Increasing members ∧ members.Perm pairs ∧
      (∃ r, ofPairs pairs = .ok r ∧ ofPairs members = .ok r ∧ Table.collect pairs = r ∧
        r.entries.Perm pairs) ∧
      (∃ r, ofJson (.object members) = .ok r ∧ r.toJson = .object members) ∧
      (¬ ∃ r, ofPairs again = .ok r) ∧
      (Table.collect again).get? "b" = some (.bool false) := by
  intro pairs members again
  have ordered : Increasing members := by
    unfold Increasing
    decide
  have moved : members.Perm pairs := List.Perm.swap _ _ []
  obtain ⟨makes, agree, -, -, -, -, objects⟩ := constructors_agree pairs
  obtain ⟨makesAgain, -, collected, -, last, -, -⟩ := constructors_agree again
  obtain ⟨r, made⟩ := makes.2 (by decide)
  obtain ⟨perm, same, -, others⟩ := agree r made
  obtain ⟨read, fromObject, written⟩ := objects members
  refine ⟨ordered, moved, ⟨r, made, others members moved, same, perm⟩,
    ⟨read, fromObject, written ordered⟩, makesAgain.not.2 (by decide), ?_⟩
  rw [collected, last]
  rfl

end RequestRouter.Record
