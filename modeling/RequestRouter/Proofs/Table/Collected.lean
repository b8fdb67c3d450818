import RequestRouter.Proofs.Table.Distinct

/-!
# Tables by sorting

A table of any entries can be made one entry after the other, each in the place of an earlier one of
its name, or at once: by a stable sort, after which the last of the neighbours with one name is
kept. Main statement: both ways make the same table. They rely on different things: the sort has to
keep the order of the entries of one name, and the walk that puts an entry has to find its place.
-/

namespace RequestRouter

universe u

variable {α : Type u}

namespace Entry

/-- Of neighbours with one name, the last. -/
def lastOfRuns : List (Entry α) → List (Entry α)
  | [] => []
  | [e] => [e]
  | a :: b :: rest =>
    if a.1 = b.1 then lastOfRuns (b :: rest) else a :: lastOfRuns (b :: rest)

variable {name : String} {entries : List (Entry α)}

/-- Two entries of different names may change places. -/
theorem or_lookup_comm {d e : Entry α} (different : d.1 ≠ e.1) :
    ([d].lookup name).or ([e].lookup name) = ([e].lookup name).or ([d].lookup name) := by
  rw [lookup_singleton, lookup_singleton]
  by_cases here : d.1 = name
  · have other : e.1 ≠ name := fun same => different (here.trans same.symm)
    simp [other]
  · simp [here]

/-- An entry passes only entries of lesser names on the way to its place. -/
theorem lookup_reverse_insertSorted (e : Entry α) (entries : List (Entry α)) :
    (insertSorted e entries).reverse.lookup name = (e :: entries).reverse.lookup name := by
  induction entries with
  | nil => rfl
  | cons x rest ih =>
    rw [insertSorted]
    split
    · rename_i less
      rw [lookup_reverse_cons, ih, lookup_reverse_cons, lookup_reverse_cons e,
        lookup_reverse_cons x, Option.or_assoc, Option.or_assoc,
        or_lookup_comm (String.ne_of_lt less).symm]
    · rfl

/-- The sort keeps the order of the entries of one name. -/
theorem lookup_reverse_sorted (entries : List (Entry α)) :
    (sorted entries).reverse.lookup name = entries.reverse.lookup name := by
  induction entries with
  | nil => rfl
  | cons e rest ih =>
    have step : sorted (e :: rest) = insertSorted e (sorted rest) := rfl
    rw [step, lookup_reverse_insertSorted, lookup_reverse_cons, ih, lookup_reverse_cons]

theorem lookup_reverse_lastOfRuns (entries : List (Entry α)) :
    (lastOfRuns entries).reverse.lookup name = entries.reverse.lookup name := by
  fun_induction lastOfRuns entries with
  | case1 => rfl
  | case2 => rfl
  | case3 a b rest same ih =>
    rw [ih, lookup_reverse_cons a, lookup_reverse_cons b, Option.or_assoc]
    -- the entry that is left out is behind one of its name
    have hidden : ([b].lookup name).or ([a].lookup name) = [b].lookup name := by
      rw [lookup_singleton, lookup_singleton, same]
      split <;> rfl
    rw [hidden]
  | case4 a b rest different ih =>
    rw [lookup_reverse_cons a, ih, lookup_reverse_cons a]

theorem lastOfRuns_sublist (entries : List (Entry α)) : (lastOfRuns entries).Sublist entries := by
  fun_induction lastOfRuns entries with
  | case1 => exact .slnil
  | case2 e => exact .refl [e]
  | case3 a b rest same ih => exact ih.cons a
  | case4 a b rest different ih => exact ih.cons_cons a

theorem increasing_lastOfRuns (ordered : entries.Pairwise fun a b => a.1 ≤ b.1) :
    Increasing (lastOfRuns entries) := by
  fun_induction lastOfRuns entries with
  | case1 => exact .nil
  | case2 e => exact List.pairwise_singleton _ e
  | case3 a b rest same ih => exact ih (List.pairwise_cons.1 ordered).2
  | case4 a b rest different ih =>
    obtain ⟨first, others⟩ := List.pairwise_cons.1 ordered
    refine List.pairwise_cons.2 ⟨fun x kept => ?_, ih others⟩
    have less : a.1 < b.1 := Std.lt_of_le_of_ne (first b List.mem_cons_self) different
    rcases List.mem_cons.1 ((lastOfRuns_sublist _).subset kept) with rfl | later
    · exact less
    · exact Std.lt_of_lt_of_le less ((List.pairwise_cons.1 others).1 x later)

theorem lastOfRuns_of_distinct (distinct : firstRepeat entries = none) :
    lastOfRuns entries = entries := by
  fun_induction lastOfRuns entries with
  | case1 => rfl
  | case2 => rfl
  | case3 a b rest same ih => simp [firstRepeat, same] at distinct
  | case4 a b rest different ih =>
    rw [firstRepeat, if_neg different] at distinct
    rw [ih distinct]

end Entry

namespace Table

variable {t : Table α} {entries other : List (Entry α)} {name : String}

/-- The table of the entries, by sorting; the last of repeated names is kept. -/
def collect (entries : List (Entry α)) : Table α :=
  ⟨Entry.lastOfRuns (Entry.sorted entries),
    Entry.increasing_lastOfRuns (Entry.pairwise_sorted entries)⟩

theorem get?_eq_lookup_reverse (t : Table α) : t.get? name = t.entries.reverse.lookup name := by
  have distinct : (Entry.names t.entries).Nodup := t.names_pairwise.imp String.ne_of_lt
  apply Option.ext
  intro value
  rw [get?_eq_some_iff, Entry.lookup_reverse_eq_some_iff distinct]

theorem ofList_entries (t : Table α) : ofList t.entries = t := by
  apply ext_get?
  intro name
  rw [get?_ofList, get?_eq_lookup_reverse]

theorem collect_eq_ofList (entries : List (Entry α)) : collect entries = ofList entries := by
  apply ext_get?
  intro name
  rw [get?_eq_lookup_reverse, collect, Entry.lookup_reverse_lastOfRuns,
    Entry.lookup_reverse_sorted, get?_ofList]

/-- Of distinct names all entries are kept. -/
theorem collect_of_ofDistinct (h : ofDistinct entries = .ok t) : collect entries = t := by
  apply ext
  rw [ofDistinct_entries h]
  refine Entry.lastOfRuns_of_distinct ?_
  unfold ofDistinct at h
  split at h
  · cases h
  · rename_i distinct
    exact distinct

/-- A table of distinct names is made whatever the order in which they come. -/
theorem ofDistinct_of_perm (same : other.Perm entries) (h : ofDistinct entries = .ok t) :
    ofDistinct other = .ok t := by
  have distinct : (Entry.names other).Nodup :=
    (same.map Prod.fst).nodup_iff.2 (nodup_of_ofDistinct h)
  obtain ⟨t', made⟩ := exists_ofDistinct distinct
  have alike : t' = t := by
    apply ext
    refine List.Pairwise.eq_of_mem_iff t'.increasing t.increasing fun e => ?_
    rw [mem_ofDistinct made, mem_ofDistinct h, same.mem_iff]
  rw [made, alike]

theorem exists_ofDistinct_iff : (∃ t, ofDistinct entries = .ok t) ↔ (Entry.names entries).Nodup :=
  ⟨fun ⟨_, made⟩ => nodup_of_ofDistinct made, exists_ofDistinct⟩

end Table

end RequestRouter
