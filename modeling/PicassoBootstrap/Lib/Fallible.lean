import Mathlib.Data.List.Basic

set_option autoImplicit false

-- Computations that may throw: what follows from one that did not.
namespace Fallible

variable {ε α β γ : Type}

@[simp] theorem bind_ok_iff (x : Except ε α) (f : α → Except ε β) (b : β) :
    x >>= f = .ok b ↔ ∃ a, x = .ok a ∧ f a = .ok b := by
  cases x with
  | error error => simp [bind, Except.bind]
  | ok a => simp [bind, Except.bind]

@[simp] theorem pure_ok_iff (a b : α) : (pure a : Except ε α) = .ok b ↔ a = b := by
  simp [pure, Except.pure]

@[simp] theorem map_ok_iff (x : Except ε α) (f : α → β) (b : β) : x.map f = .ok b ↔ ∃ a, x = .ok a ∧ f a = b := by
  cases x <;> simp [Except.map]

theorem map_m_ok_iff (f : α → Except ε β) (xs : List α) (ys : List β) :
    xs.mapM f = .ok ys ↔ xs.map f = ys.map .ok := by
  induction xs generalizing ys with
  | nil =>
      rw [List.mapM_nil, pure_ok_iff]
      cases ys <;> simp
  | cons x rest ih =>
      rw [List.mapM_cons, bind_ok_iff]
      constructor
      · rintro ⟨y, head, tail⟩
        obtain ⟨later, mapped, same⟩ := (bind_ok_iff _ _ _).mp tail
        rw [← (pure_ok_iff _ _).mp same, List.map_cons, List.map_cons, head, (ih later).mp mapped]
      · intro mapped
        cases ys with
        | nil => exact absurd mapped (by simp)
        | cons y later =>
            rw [List.map_cons, List.map_cons, List.cons.injEq] at mapped
            refine ⟨y, mapped.1, ?_⟩
            rw [(ih later).mpr mapped.2]
            rfl

theorem map_build_ok (decode : α → Except ε β) (build : β → γ) (xs : List α) (ys : List γ)
    (mapped : (xs.map fun x => (decode x).map build) = ys.map .ok) :
    ∃ decoded : List β, xs.map decode = decoded.map .ok ∧ ys = decoded.map build := by
  induction xs generalizing ys with
  | nil => exact ⟨[], rfl, by simpa using mapped⟩
  | cons x rest ih =>
      cases ys with
      | nil => exact absurd mapped (by simp)
      | cons y later =>
          rw [List.map_cons, List.map_cons, List.cons.injEq] at mapped
          obtain ⟨value, found, rfl⟩ := (map_ok_iff _ _ _).mp mapped.1
          obtain ⟨decoded, others, rfl⟩ := ih later mapped.2
          exact ⟨value :: decoded, by simp [found, others], by simp⟩

theorem map_build_of_ok (decode : α → Except ε β) (build : β → γ) (xs : List α) (decoded : List β)
    (mapped : xs.map decode = decoded.map .ok) :
    (xs.map fun x => (decode x).map build) = (decoded.map build).map .ok := by
  calc
    (xs.map fun x => (decode x).map build) = (xs.map decode).map (Except.map build) := by simp
    _ = (decoded.map .ok).map (Except.map build) := by rw [mapped]
    _ = (decoded.map build).map .ok := by simp [Except.map]

end Fallible
