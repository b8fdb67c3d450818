import RequestRouter.Proofs.Table.Lookup

/-!
# Tables of lists

Sorting moves entries about and loses none, so a table of distinct names has exactly the entries
it was made of, and of names that repeat the least is found. In a table of any entries the last of
repeated names stands.
-/

namespace RequestRouter

universe u

variable {α : Type u}

namespace Entry

theorem insertSorted_perm (e : Entry α) (entries : List (Entry α)) :
    (insertSorted e entries).Perm (e :: entries) := by
  induction entries with
  | nil => exact List.Perm.refl _
  | cons x rest ih =>
    simp only [insertSorted]
    split
    · exact (ih.cons x).trans (List.Perm.swap e x rest)
    · exact List.Perm.refl _

theorem sorted_perm (entries : List (Entry α)) : (sorted entries).Perm entries := by
  induction entries with
  | nil => exact List.Perm.refl _
  | cons e rest ih => exact (insertSorted_perm e (sorted rest)).trans (ih.cons e)

/-- Among distinct names the look-up finds every entry. -/
theorem lookup_of_mem {entries : List (Entry α)} (distinct : (names entries).Nodup) {name : String}
    {value : α} (h : (name, value) ∈ entries) : entries.lookup name = some value := by
  rw [List.lookup_eq_some_iff]
  obtain ⟨before, after, rfl⟩ := List.append_of_mem h
  refine ⟨before, after, rfl, ?_⟩
  intro e earlier
  have apart : e.1 ≠ name := by
    have split := List.nodup_append.1 (by simpa [names] using distinct)
    exact split.2.2 e.1 (mem_names_of_mem earlier) name List.mem_cons_self
  simpa using Ne.symm apart

/-- The last of the entries of a name is the first one unless a later one has the name too. -/
theorem lookup_reverse_cons (e : Entry α) (entries : List (Entry α)) (name : String) :
    (e :: entries).reverse.lookup name = (entries.reverse.lookup name).or ([e].lookup name) := by
  rw [List.reverse_cons, List.lookup_append]

theorem lookup_singleton (e : Entry α) (name : String) :
    [e].lookup name = if e.1 = name then some e.2 else none := by
  rw [List.lookup_cons, List.lookup_nil]
  by_cases here : e.1 = name
  · simp [here]
  · simp [here, beq_eq_false_iff_ne.2 (Ne.symm here)]

/-- Among distinct names it makes no difference from which end the look-up starts. -/
theorem lookup_reverse_eq_some_iff {entries : List (Entry α)}
    (distinct : (names entries).Nodup) {name : String} {value : α} :
    entries.reverse.lookup name = some value ↔ (name, value) ∈ entries := by
  have reversed : (names entries.reverse).Nodup := by
    rw [names, List.map_reverse]
    exact List.nodup_reverse.2 distinct
  constructor
  · intro found
    obtain ⟨before, after, split, -⟩ := List.lookup_eq_some_iff.1 found
    exact List.mem_reverse.1 (split ▸ List.mem_append_right _ List.mem_cons_self)
  · intro listed
    exact lookup_of_mem reversed (List.mem_reverse.2 listed)

/-- The name stands in two entries or more, and no lesser name does. -/
structure LeastRepeat (entries : List (Entry α)) (name : String) : Prop where
  twice : 1 < (names entries).count name
  least : ∀ other, 1 < (names entries).count other → name ≤ other

theorem LeastRepeat.unique {entries : List (Entry α)} {name name' : String}
    (h : LeastRepeat entries name) (h' : LeastRepeat entries name') : name = name' :=
  String.le_antisymm (h.least name' h'.twice) (h'.least name h.twice)

/-- It makes no difference in which order the entries stand. -/
theorem LeastRepeat.of_perm {entries other : List (Entry α)} {name : String}
    (same : other.Perm entries) (h : LeastRepeat entries name) : LeastRepeat other name := by
  have counts := (same.map Prod.fst).count_eq
  refine ⟨counts name ▸ h.twice, fun repeated twice => h.least repeated ?_⟩
  rwa [names, counts repeated] at twice

theorem LeastRepeat.not_nodup {entries : List (Entry α)} {name : String}
    (h : LeastRepeat entries name) : ¬ (names entries).Nodup := by
  intro distinct
  have once := List.nodup_iff_count_le_one.1 distinct name
  have twice := h.twice
  omega

/-- Entries in the order of their names have all entries of one name side by side. -/
theorem leastRepeat_of_firstRepeat {entries : List (Entry α)}
    (sorted : entries.Pairwise fun a b => a.1 ≤ b.1) {name : String}
    (h : firstRepeat entries = some name) : LeastRepeat entries name := by
  fun_induction firstRepeat entries with
  | case1 => cases h
  | case2 => cases h
  | case3 a b rest same =>
    cases h
    obtain ⟨first, -⟩ := List.pairwise_cons.1 sorted
    refine ⟨by simp [names, ← same], fun other twice => ?_⟩
    have listed : other ∈ names (a :: b :: rest) := List.count_pos_iff.1 (by omega)
    obtain ⟨e, member, rfl⟩ := List.mem_map.1 listed
    rcases List.mem_cons.1 member with rfl | later
    · exact String.le_refl _
    · exact first e later
  | case4 a b rest different ih =>
    obtain ⟨first, others⟩ := List.pairwise_cons.1 sorted
    obtain ⟨twice, least⟩ := ih others h
    -- a name that differs from that of its neighbour does not come back
    have once : a.1 ∉ names (b :: rest) := by
      intro listed
      obtain ⟨e, member, same⟩ := List.mem_map.1 listed
      have between : b.1 ≤ a.1 := by
        rcases List.mem_cons.1 member with rfl | later
        · exact same ▸ String.le_refl _
        · exact same ▸ (List.pairwise_cons.1 others).1 e later
      exact different (String.le_antisymm (first b List.mem_cons_self) between)
    have count {other : String} : (names (a :: b :: rest)).count other =
        (names (b :: rest)).count other + if a.1 = other then 1 else 0 := by
      rw [names, List.map_cons, List.count_cons]
      simp [names]
    refine ⟨by rw [count]; omega, fun other repeated => least other ?_⟩
    rw [count] at repeated
    by_cases own : a.1 = other
    · have none := List.count_eq_zero.2 once
      rw [if_pos own, ← own, none] at repeated
      omega
    · rw [if_neg own] at repeated
      omega

end Entry

namespace Table

variable {t : Table α} {entries : List (Entry α)}

theorem ofDistinct_entries (h : ofDistinct entries = .ok t) : t.entries = Entry.sorted entries := by
  unfold ofDistinct at h
  split at h
  · cases h
  · cases h
    rfl

theorem mem_ofDistinct (h : ofDistinct entries = .ok t) {e : Entry α} :
    e ∈ t.entries ↔ e ∈ entries := by
  rw [ofDistinct_entries h]
  exact (Entry.sorted_perm entries).mem_iff

/-- Only distinct names make a table. -/
theorem nodup_of_ofDistinct (h : ofDistinct entries = .ok t) : (Entry.names entries).Nodup := by
  have names := (Entry.sorted_perm entries).map Prod.fst
  rw [← ofDistinct_entries h] at names
  exact names.nodup_iff.1 (t.names_pairwise.imp String.ne_of_lt)

/-- Of names that repeat, the least is reported. -/
theorem leastRepeat_of_ofDistinct {name : String} (h : ofDistinct entries = .error name) :
    Entry.LeastRepeat entries name := by
  unfold ofDistinct at h
  split at h
  · rename_i found
    cases h
    have least := Entry.leastRepeat_of_firstRepeat (Entry.pairwise_sorted entries) found
    exact least.of_perm (Entry.sorted_perm entries).symm
  · cases h

/-- All distinct names make one. -/
theorem exists_ofDistinct (distinct : (Entry.names entries).Nodup) :
    ∃ t, ofDistinct entries = .ok t := by
  cases made : ofDistinct entries with
  | ok t => exact ⟨t, rfl⟩
  | error name => exact absurd distinct (leastRepeat_of_ofDistinct made).not_nodup

theorem get?_foldl_insert {t : Table α} {name : String} :
    (entries.foldl (fun t e => t.insert e.1 e.2) t).get? name =
      (entries.reverse.lookup name).or (t.get? name) := by
  induction entries generalizing t with
  | nil => rfl
  | cons e rest ih =>
    have last : (t.insert e.1 e.2).get? name = ([e].lookup name).or (t.get? name) := by
      rw [get?_insert, Entry.lookup_singleton]
      split <;> rfl
    rw [List.foldl_cons, ih, last, Entry.lookup_reverse_cons, Option.or_assoc]

/-- Of repeated names the last one stands. -/
theorem get?_ofList {name : String} : (ofList entries).get? name = entries.reverse.lookup name := by
  rw [ofList, get?_foldl_insert, get?_empty, Option.or_none]

/-- Entries that come later are a newer table. -/
theorem ofList_append (older newer : List (Entry α)) :
    ofList (older ++ newer) = (ofList older).union (ofList newer) := by
  apply ext_get?
  intro name
  rw [get?_union, get?_ofList, get?_ofList, get?_ofList, List.reverse_append, List.lookup_append]

theorem mem_names_ofList {name : String} :
    name ∈ (ofList entries).names ↔ name ∈ Entry.names entries := by
  rw [mem_names_iff, ← Option.isSome_iff_exists, get?_ofList, List.lookup_isSome_iff]
  simp only [Entry.names, List.mem_reverse, beq_iff_eq, List.mem_map]
  exact exists_congr fun e => and_congr_right fun _ => eq_comm

/-- Of distinct names each keeps its value. -/
theorem get?_ofList_of_mem (distinct : (Entry.names entries).Nodup) {name : String} {value : α}
    (h : (name, value) ∈ entries) : (ofList entries).get? name = some value := by
  rw [get?_ofList, Entry.lookup_reverse_eq_some_iff distinct]
  exact h

end Table

end RequestRouter
