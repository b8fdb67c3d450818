/-!
# Results of `Except`

When a mapped result is a value or an error, and at which step a walk over a list ends.
-/

namespace RequestRouter

universe u v w

variable {ε : Type u} {ε' : Type v} {α β : Type w}

theorem except_map_eq_ok_iff {f : α → β} {x : Except ε α} {b : β} :
    x.map f = .ok b ↔ ∃ a, x = .ok a ∧ f a = b := by
  cases x <;> simp [Except.map]

theorem except_bind_eq_ok_iff {f : α → Except ε β} {x : Except ε α} {b : β} :
    x >>= f = .ok b ↔ ∃ a, x = .ok a ∧ f a = .ok b := by
  cases x <;> simp [Bind.bind, Except.bind]

theorem except_map_eq_error_iff {f : α → β} {x : Except ε α} {e : ε} :
    x.map f = .error e ↔ x = .error e := by
  cases x <;> simp [Except.map]

theorem except_mapError_eq_ok_iff {f : ε → ε'} {x : Except ε α} {a : α} :
    x.mapError f = .ok a ↔ x = .ok a := by
  cases x with
  | ok b =>
    show (Except.ok b : Except ε' α) = .ok a ↔ (Except.ok b : Except ε α) = .ok a
    rw [Except.ok.injEq, Except.ok.injEq]
  | error e =>
    show (Except.error (f e) : Except ε' α) = .ok a ↔ (Except.error e : Except ε α) = .ok a
    simp

/-- A walk that keeps some images has a result if every step does. -/
theorem except_exists_filterMapM {α β : Type} {f : α → Except ε (Option β)} {l : List α}
    (steps : ∀ x ∈ l, ∃ y, f x = .ok y) : ∃ ys, l.filterMapM f = .ok ys := by
  induction l with
  | nil => exact ⟨[], rfl⟩
  | cons x rest ih =>
    obtain ⟨⟨y, here⟩, there⟩ := List.forall_mem_cons.1 steps
    obtain ⟨ys, further⟩ := ih there
    rw [List.filterMapM_cons, here]
    cases y with
    | none => exact ⟨ys, further⟩
    | some b =>
      refine ⟨b :: ys, ?_⟩
      show (rest.filterMapM f >>= fun ys => pure (b :: ys)) = _
      rw [further]
      rfl

section Walk

variable {ε α : Type} {f : α → Except ε Unit} {l : List α}

/-- A walk passes if every step does. -/
theorem except_forM_eq_ok_iff : forM l f = .ok () ↔ ∀ x ∈ l, f x = .ok () := by
  induction l with
  | nil => simp [pure, Except.pure]
  | cons x rest ih =>
    rw [List.forM_cons, except_bind_eq_ok_iff, List.forall_mem_cons, ← ih]
    exact ⟨fun ⟨_, here, there⟩ => ⟨here, there⟩, fun ⟨here, there⟩ => ⟨(), here, there⟩⟩

/-- A walk ends with the error of the first step that has one. -/
theorem except_forM_eq_error_iff {e : ε} : forM l f = .error e ↔
    ∃ before x after, l = before ++ x :: after ∧ (∀ y ∈ before, f y = .ok ()) ∧ f x = .error e := by
  induction l with
  | nil => simp [pure, Except.pure]
  | cons x rest ih =>
    rw [List.forM_cons]
    cases first : f x with
    | error e' =>
      constructor
      · intro stopped
        exact ⟨[], x, rest, rfl, by simp, first.trans stopped⟩
      · rintro ⟨before, y, after, split, passed, failed⟩
        cases before with
        | nil =>
          cases split
          exact first.symm.trans failed
        | cons z before =>
          obtain ⟨rfl, -⟩ := List.cons.inj split
          rw [passed x List.mem_cons_self] at first
          cases first
    | ok u =>
      show forM rest f = .error e ↔ _
      rw [ih]
      constructor
      · rintro ⟨before, y, after, rfl, passed, failed⟩
        exact ⟨x :: before, y, after, rfl, List.forall_mem_cons.2 ⟨first, passed⟩, failed⟩
      · rintro ⟨before, y, after, split, passed, failed⟩
        cases before with
        | nil =>
          cases split
          rw [first] at failed
          cases failed
        | cons z before =>
          obtain ⟨rfl, rfl⟩ := List.cons.inj split
          exact ⟨before, y, after, rfl, (List.forall_mem_cons.1 passed).2, failed⟩

end Walk

end RequestRouter
