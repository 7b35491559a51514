/-
# Lists of results

A list is gone through from the front, and each element gives a result or fails.  There are results
for all of it exactly when each element gives one (`mapM_eq_ok_iff`, `exists_mapM_eq_ok_iff`), and
otherwise the first failure is that of the whole (`mapM_eq_error_iff`).
-/
import Mathlib.Data.List.Forall2

namespace Manpage

theorem mapM_cons_eq_ok_iff {ε α β : Type} {f : α → Except ε β} {x : α} {xs : List α}
    {ys : List β} :
    (x :: xs).mapM f = .ok ys ↔ ∃ y rest, f x = .ok y ∧ xs.mapM f = .ok rest ∧ ys = y :: rest := by
  rw [List.mapM_cons]
  cases hx : f x with
  | error e => simp [bind, Except.bind]
  | ok y =>
    cases hxs : xs.mapM f with
    | error e => simp [bind, Except.bind]
    | ok rest => simp [bind, Except.bind, pure, Except.pure, eq_comm]

/-- **There are results for all of a list exactly when each element gives one.** -/
theorem mapM_eq_ok_iff {ε α β : Type} {f : α → Except ε β} {xs : List α} {ys : List β} :
    xs.mapM f = .ok ys ↔ List.Forall₂ (fun x y => f x = .ok y) xs ys := by
  induction xs generalizing ys with
  | nil => simp [pure, Except.pure, eq_comm]
  | cons x xs ih => simp only [mapM_cons_eq_ok_iff, ih, List.forall₂_cons_left_iff]

theorem exists_forall₂_iff {α β : Type} {r : α → β → Prop} {xs : List α} :
    (∃ ys, List.Forall₂ r xs ys) ↔ ∀ x ∈ xs, ∃ y, r x y := by
  induction xs with
  | nil => simp
  | cons x xs ih =>
    simp only [List.forall₂_cons_left_iff, List.forall_mem_cons, ← ih]
    constructor
    · rintro ⟨-, y, ys, hy, hys, -⟩
      exact ⟨⟨y, hy⟩, ys, hys⟩
    · rintro ⟨⟨y, hy⟩, ys, hys⟩
      exact ⟨_, y, ys, hy, hys, rfl⟩

theorem exists_mapM_eq_ok_iff {ε α β : Type} {f : α → Except ε β} {xs : List α} :
    (∃ ys, xs.mapM f = .ok ys) ↔ ∀ x ∈ xs, ∃ y, f x = .ok y := by
  simp only [mapM_eq_ok_iff, exists_forall₂_iff]

theorem mapM_cons_eq_error_iff {ε α β : Type} {f : α → Except ε β} {x : α} {xs : List α} {e : ε} :
    (x :: xs).mapM f = .error e ↔
      f x = .error e ∨ (∃ y, f x = .ok y) ∧ xs.mapM f = .error e := by
  rw [List.mapM_cons]
  cases hx : f x with
  | error e' => simp [bind, Except.bind]
  | ok y =>
    cases hxs : xs.mapM f with
    | error e' => simp [bind, Except.bind]
    | ok rest => simp [bind, Except.bind, pure, Except.pure]

/-- The first failure is the one that is reported. -/
theorem mapM_eq_error_iff {ε α β : Type} {f : α → Except ε β} {xs : List α} {e : ε} :
    xs.mapM f = .error e ↔
      ∃ good x rest, xs = good ++ x :: rest ∧ (∀ g ∈ good, ∃ y, f g = .ok y) ∧
        f x = .error e := by
  induction xs with
  | nil => simp [pure, Except.pure]
  | cons x xs ih =>
    rw [mapM_cons_eq_error_iff, ih]
    constructor
    · rintro (hx | ⟨hx, good, bad, rest, rfl, hgood, hbad⟩)
      · exact ⟨[], x, xs, rfl, by simp, hx⟩
      · exact ⟨x :: good, bad, rest, rfl, List.forall_mem_cons.mpr ⟨hx, hgood⟩, hbad⟩
    · rintro ⟨good, bad, rest, hxs, hgood, hbad⟩
      cases good with
      | nil =>
        obtain ⟨rfl, -⟩ := List.cons.inj hxs
        exact .inl hbad
      | cons first good =>
        obtain ⟨rfl, rfl⟩ := List.cons.inj hxs
        obtain ⟨hx, hgood⟩ := List.forall_mem_cons.mp hgood
        exact .inr ⟨hx, good, bad, rest, rfl, hgood, hbad⟩

end Manpage
