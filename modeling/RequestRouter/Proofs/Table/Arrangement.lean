import RequestRouter.Proofs.Table.Collected
import RequestRouter.Proofs.Text.ByteOrder

/-!
# Sorting that refuses repeats

Entries are put in the order of their names, unless a name comes twice. Repeats are looked for among
neighbours only, and only after the sort: then all entries of one name stand side by side, and the
first neighbours with one name have the least name that repeats. The check for an order, which looks
at neighbours too, is likewise as good as one that compares all pairs.

Main statement: the sort gives the one permutation of its input in which the names strictly
increase, byte by byte, or else the least name that repeats, and both depend only on which entries
there are.
-/

namespace RequestRouter

universe u

variable {α : Type u} {entries other arranged : List (Entry α)}

namespace Entry

/-- From one neighbour to the next the order carries over to all that come later. -/
theorem adjacentIncreasing_iff : adjacentIncreasing entries = true ↔ Increasing entries := by
  fun_induction adjacentIncreasing entries with
  | case1 => exact iff_of_true rfl .nil
  | case2 e => exact iff_of_true rfl (List.pairwise_singleton _ e)
  | case3 a b rest ih =>
    rw [Bool.and_eq_true, decide_eq_true_eq, ih]
    constructor
    · rintro ⟨less, others⟩
      refine List.pairwise_cons.2 ⟨fun x later => ?_, others⟩
      rcases List.mem_cons.1 later with rfl | later
      · exact less
      · exact String.lt_trans less ((List.pairwise_cons.1 others).1 x later)
    · intro increasing
      obtain ⟨first, others⟩ := List.pairwise_cons.1 increasing
      exact ⟨first b List.mem_cons_self, others⟩

/-- The same entries, in such an order that the bytes of their names strictly increase. -/
structure Arrangement (entries arranged : List (Entry α)) : Prop where
  perm : arranged.Perm entries
  increasing : arranged.Pairwise fun a b => Utf8.encode a.1 < Utf8.encode b.1

theorem Arrangement.names_increasing (h : Arrangement entries arranged) : Increasing arranged :=
  h.increasing.imp Utf8.encode_lt_iff.1

theorem Arrangement.unique {arranged' : List (Entry α)} (h : Arrangement entries arranged)
    (h' : Arrangement entries arranged') : arranged = arranged' := by
  refine List.Pairwise.eq_of_mem_iff h.names_increasing h'.names_increasing fun e => ?_
  rw [h.perm.mem_iff, h'.perm.mem_iff]

theorem LeastRepeat.count_le_one {name : String} (h : LeastRepeat entries name) {lesser : String}
    (less : Utf8.encode lesser < Utf8.encode name) : (names entries).count lesser ≤ 1 := by
  refine Nat.not_lt.1 fun twice => ?_
  exact String.not_lt.2 (h.least lesser twice) (Utf8.encode_lt_iff.1 less)

end Entry

namespace Table

variable {t : Table α} {name : String}

theorem arrangement_of_ofDistinct (h : ofDistinct entries = .ok t) :
    Entry.Arrangement entries t.entries := by
  refine ⟨?_, t.increasing.imp Utf8.encode_lt⟩
  rw [ofDistinct_entries h]
  exact Entry.sorted_perm entries

/-- Names that are not distinct are refused. -/
theorem exists_ofDistinct_error (repeats : ¬ (Entry.names entries).Nodup) :
    ∃ name, ofDistinct entries = .error name := by
  cases made : ofDistinct entries with
  | ok t => exact absurd (nodup_of_ofDistinct made) repeats
  | error name => exact ⟨name, rfl⟩

theorem ofDistinct_error_of_perm (same : other.Perm entries)
    (h : ofDistinct entries = .error name) : ofDistinct other = .error name := by
  have least := (leastRepeat_of_ofDistinct h).of_perm same
  obtain ⟨name', refused⟩ := exists_ofDistinct_error least.not_nodup
  rw [refused, (leastRepeat_of_ofDistinct refused).unique least]

/-- Entries of distinct names are put in order: the outcome is the one permutation of them in which
the bytes of the names strictly increase, and it passes the check for such an order. Otherwise the
sort fails with a name that two entries or more have, wherever they stand, while a name of lesser
bytes is that of one entry at most. In either case all permutations of the entries fare alike. -/
theorem ofDistinct_arranges (entries : List (Entry α)) :
    ((Entry.names entries).Nodup → ∃ t, ofDistinct entries = .ok t ∧
      (∀ arranged, Entry.Arrangement entries arranged ↔ arranged = t.entries) ∧
      Entry.adjacentIncreasing t.entries = true ∧
      ∀ other, other.Perm entries → ofDistinct other = .ok t) ∧
    (¬ (Entry.names entries).Nodup → ∃ name, ofDistinct entries = .error name ∧
      1 < (Entry.names entries).count name ∧
      (∀ lesser, Utf8.encode lesser < Utf8.encode name →
        (Entry.names entries).count lesser ≤ 1) ∧
      ∀ other, other.Perm entries → ofDistinct other = .error name) := by
  constructor
  · intro distinct
    obtain ⟨t, made⟩ := exists_ofDistinct distinct
    have arrangement := arrangement_of_ofDistinct made
    refine ⟨t, made, fun arranged => ⟨fun h => h.unique arrangement, ?_⟩,
      Entry.adjacentIncreasing_iff.2 t.increasing, fun _ same => ofDistinct_of_perm same made⟩
    rintro rfl
    exact arrangement
  · intro repeats
    obtain ⟨name, refused⟩ := exists_ofDistinct_error repeats
    have least := leastRepeat_of_ofDistinct refused
    exact ⟨name, refused, least.twice, fun _ => least.count_le_one,
      fun _ same => ofDistinct_error_of_perm same refused⟩

/-- In UTF-16 the emoji would stand before U+FFFD. Of the names that come twice, `m` is the least,
though both entries of `z` stand between its own. -/
theorem ofDistinct_arranges_of_scattered :
    let once : List (Entry Nat) := [("😀", 1), ("", 2), ("\uFFFD", 3)]
    let twice : List (Entry Nat) := [("m", 1), ("z", 2), ("a", 3), ("z", 4), ("m", 5)]
    (Entry.names once).Nodup ∧ ¬ (Entry.names twice).Nodup ∧
      (∃ t, ofDistinct once = .ok t ∧ t.entries = [("", 2), ("\uFFFD", 3), ("😀", 1)] ∧
        ofDistinct once.reverse = .ok t) ∧
      ofDistinct twice = .error "m" ∧ ofDistinct twice.reverse = .error "m" := by
  intro once twice
  have distinct : (Entry.names once).Nodup := by decide
  have repeats : ¬ (Entry.names twice).Nodup := by decide
  obtain ⟨t, made, arrangement, -, alike⟩ := (ofDistinct_arranges once).1 distinct
  obtain ⟨name, refused, counted, least, refusedAlike⟩ := (ofDistinct_arranges twice).2 repeats
  have ordered : Entry.Arrangement once [("", 2), ("\uFFFD", 3), ("😀", 1)] :=
    ⟨by decide, by decide⟩
  have notA : name ≠ "a" := by
    rintro rfl
    exact absurd counted (by decide)
  have notZ : name ≠ "z" := by
    rintro rfl
    exact absurd (least "m" (by decide)) (by decide)
  have listed : name ∈ ["m", "z", "a", "z", "m"] :=
    List.count_pos_iff.1 (Nat.lt_of_succ_lt counted)
  obtain rfl : name = "m" := by simpa [notA, notZ] using listed
  have reversed : ofDistinct once.reverse = .ok t := alike _ (List.reverse_perm once)
  exact ⟨distinct, repeats, ⟨t, made, ((arrangement _).1 ordered).symm, reversed⟩, refused,
    refusedAlike _ (List.reverse_perm twice)⟩

end Table

end RequestRouter
