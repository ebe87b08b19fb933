import Mathlib.Data.List.Forall2

/-!
# Results that are there

When a computation that may fail gives a result: for one step behind another, for a step at each item of
a list, and for a state that is carried along a list.
-/

namespace Except

variable {ε α β σ : Type}

theorem bind_eq_ok_iff {x : Except ε α} {f : α → Except ε β} {b : β} :
    x >>= f = .ok b ↔ ∃ a, x = .ok a ∧ f a = .ok b := by
  cases x <;> simp [bind, Except.bind]

theorem map_eq_ok_iff {x : Except ε α} {f : α → β} {b : β} :
    x.map f = .ok b ↔ ∃ a, x = .ok a ∧ f a = b := by
  cases x <;> simp [Except.map]

theorem mapError_eq_ok_iff {x : Except ε α} {f : ε → σ} {a : α} :
    x.mapError f = .ok a ↔ x = .ok a := by
  cases x <;> simp [Except.mapError]

/-- A check that is passed. -/
theorem ite_error_eq_ok_iff {c : Prop} [Decidable c] {fault : ε} {x : Except ε α} {a : α} :
    (if c then .error fault else x) = .ok a ↔ ¬ c ∧ x = .ok a := by
  by_cases h : c <;> simp [h]

@[simp] theorem ok_bind (a : α) (f : α → Except ε β) : (.ok a >>= f) = f a := rfl

@[simp] theorem ok_map (a : α) (f : α → β) : (Except.ok a : Except ε α).map f = .ok (f a) := rfl

theorem map_eq_bind (x : Except ε α) (f : α → β) : x.map f = x >>= fun a => .ok (f a) := by
  cases x <;> rfl

theorem mapM_ok (items : List α) : items.mapM (.ok : α → Except ε α) = .ok items := by
  induction items with
  | nil => rfl
  | cons item rest ih => rw [List.mapM_cons, ok_bind, ih]; rfl

theorem mapM_eq_ok_iff {f : β → Except ε α} {items : List β} {values : List α} :
    items.mapM f = .ok values ↔ List.Forall₂ (fun value item => f item = .ok value) values items := by
  induction items generalizing values with
  | nil => simp [pure, Except.pure, eq_comm]
  | cons item rest ih =>
      simp only [List.mapM_cons, bind_eq_ok_iff, ih, pure, Except.pure, Except.ok.injEq,
        List.forall₂_cons_right_iff]
      constructor
      · rintro ⟨a, ha, others, hothers, rfl⟩
        exact ⟨a, others, ha, hothers, rfl⟩
      · rintro ⟨a, others, ha, hothers, rfl⟩
        exact ⟨a, ha, others, hothers, rfl⟩

theorem foldlM_cons_eq_ok_iff {f : σ → β → Except ε σ} {item : β} {rest : List β} {s t : σ} :
    (item :: rest).foldlM f s = .ok t ↔ ∃ u, f s item = .ok u ∧ rest.foldlM f u = .ok t := by
  rw [List.foldlM_cons, bind_eq_ok_iff]

end Except
