import Mathlib.Order.Bounds.Basic

/-!
# A counter that follows a target one step at a time

A counter is shown a target at every step. It moves up by one when it is behind
and stays where it is otherwise, so after a jump of the target it takes several
steps to catch up. When the target never goes down, the counter after `m` steps
has a closed form: the least, over all earlier instants `j`, of the target at `j`
plus the number of steps made since.

This is the service curve of a unit-rate server, and nothing here is about a
particular one.
-/

namespace FwCore.Lib

/-- The counter after `m` steps, shown `target (k + 1)` at step `k`. -/
def catchUp (target : Nat → Nat) : Nat → Nat
  | 0 => 0
  | m + 1 => if catchUp target m < target (m + 1) then catchUp target m + 1 else catchUp target m

variable {target : Nat → Nat}

/-- Only the targets it was shown matter. -/
theorem catchUp_congr {target' : Nat → Nat} {m : Nat} (h : ∀ k, k ≤ m → target k = target' k) :
    catchUp target m = catchUp target' m := by
  induction m with
  | zero => rfl
  | succ m ih =>
      rw [catchUp, catchUp, ih fun k hk => h k (Nat.le_succ_of_le hk), h (m + 1) (Nat.le_refl _)]

/-- The counter is never ahead of a target that started at zero and never fell. -/
theorem catchUp_le {n : Nat} (hmono : ∀ k, k < n → target k ≤ target (k + 1)) :
    ∀ m, m ≤ n → catchUp target m ≤ target m := by
  intro m
  induction m with
  | zero => intro _; exact Nat.zero_le _
  | succ m ih =>
      intro hm
      have hm0 := ih (by omega)
      have hstep := hmono m (by omega)
      rw [catchUp]
      split
      · omega
      · omega

/-- One step raises the counter by at most one. -/
theorem catchUp_succ_le (target : Nat → Nat) (m : Nat) :
    catchUp target (m + 1) ≤ catchUp target m + 1 := by
  rw [catchUp]
  split
  · exact Nat.le_refl _
  · exact Nat.le_succ _

/-- From any earlier instant, the counter has gained at most the steps made since. -/
theorem catchUp_lag {n : Nat} (hmono : ∀ k, k < n → target k ≤ target (k + 1)) :
    ∀ m, m ≤ n → ∀ j, j ≤ m → catchUp target m ≤ target j + (m - j) := by
  intro m
  induction m with
  | zero =>
      intro _ j hj
      exact Nat.zero_le _
  | succ m ih =>
      intro hm j hj
      rcases Nat.lt_or_ge m j with hlt | hge
      · have hjm : j = m + 1 := by omega
        subst hjm
        have := catchUp_le hmono (m + 1) hm
        omega
      · have := ih (by omega) j hge
        have := catchUp_succ_le target m
        omega

/-- Some instant attains the bound: the last one at which the counter was level. -/
theorem catchUp_attained {n : Nat} (h0 : target 0 = 0)
    (hmono : ∀ k, k < n → target k ≤ target (k + 1)) :
    ∀ m, m ≤ n → ∃ j, j ≤ m ∧ catchUp target m = target j + (m - j) := by
  intro m
  induction m with
  | zero => intro _; exact ⟨0, Nat.le_refl _, by rw [h0]; rfl⟩
  | succ m ih =>
      intro hm
      by_cases hb : catchUp target m < target (m + 1)
      · -- still behind, so the instant that explained `m` explains `m + 1`
        obtain ⟨j, hj, he⟩ := ih (by omega)
        refine ⟨j, by omega, ?_⟩
        rw [catchUp, if_pos hb, he]
        omega
      · -- level with the target
        have hle := catchUp_le hmono m (by omega)
        have hstep := hmono m (by omega)
        refine ⟨m + 1, Nat.le_refl _, ?_⟩
        rw [catchUp, if_neg hb]
        omega

/-- **The closed form.** -/
theorem catchUp_isLeast {m : Nat} (h0 : target 0 = 0)
    (hmono : ∀ k, k < m → target k ≤ target (k + 1)) :
    IsLeast {x | ∃ j, j ≤ m ∧ x = target j + (m - j)} (catchUp target m) := by
  constructor
  · exact catchUp_attained h0 hmono m (Nat.le_refl _)
  · rintro x ⟨j, hj, rfl⟩
    exact catchUp_lag hmono m (Nat.le_refl _) j hj

end FwCore.Lib
