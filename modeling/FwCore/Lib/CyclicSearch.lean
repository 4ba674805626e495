import Mathlib.Data.List.Basic
import Mathlib.Data.List.Nodup
import Mathlib.Data.List.Perm.Subperm
import Mathlib.Data.Nat.Find
import Mathlib.Data.Nat.ModEq

/-!
# Searching for a free number around a circle

Numbers below `m` are handed out by counting up from `c` and wrapping around. As
long as fewer than `m` of them are taken, one of the first `k + 1` is free, `k`
being how many are taken: that many different numbers do not fit among the taken.
-/

namespace FwCore.Lib

/-- Within one turn of the circle no number comes up twice. -/
theorem cyclic_inj {m c i j : Nat} (hi : i < m) (hj : j < m) (h : (c + i) % m = (c + j) % m) :
    i = j := by
  have hmod : i % m = j % m := Nat.ModEq.add_left_cancel' c h
  rw [Nat.mod_eq_of_lt hi, Nat.mod_eq_of_lt hj] at hmod
  exact hmod

/-- **One of the next `taken.length + 1` numbers is free.** -/
theorem exists_free {m : Nat} (c : Nat) (taken : List Nat) (h : taken.length < m) :
    ∃ j, j ≤ taken.length ∧ (c + j) % m ∉ taken := by
  by_contra hno
  have hall : ∀ j, j ≤ taken.length → (c + j) % m ∈ taken := by
    intro j hj
    by_contra hfree
    exact hno ⟨j, hj, hfree⟩
  have hnodup : ((List.range (taken.length + 1)).map (fun j => (c + j) % m)).Nodup := by
    refine List.Nodup.map_on (fun i hi j hj he => ?_) List.nodup_range
    have := List.mem_range.mp hi
    have := List.mem_range.mp hj
    exact cyclic_inj (by omega) (by omega) he
  have hsub : (List.range (taken.length + 1)).map (fun j => (c + j) % m) ⊆ taken := by
    intro x hx
    obtain ⟨j, hj, rfl⟩ := List.mem_map.mp hx
    exact hall j (Nat.lt_succ_iff.mp (List.mem_range.mp hj))
  have hle := (hnodup.subperm hsub).length_le
  rw [List.length_map, List.length_range] at hle
  omega

/-- **The first of them that is free** comes after at most as many as are taken. -/
theorem first_free {m : Nat} (c : Nat) (taken : List Nat) (h : taken.length < m) :
    ∃ k, k ≤ taken.length ∧ (c + k) % m ∉ taken ∧ ∀ j < k, (c + j) % m ∈ taken := by
  have hex : ∃ k, (c + k) % m ∉ taken := by
    obtain ⟨j, _, hfree⟩ := exists_free c taken h
    exact ⟨j, hfree⟩
  obtain ⟨j, hj, hfree⟩ := exists_free c taken h
  refine ⟨Nat.find hex, Nat.le_trans (Nat.find_min' hex hfree) hj, Nat.find_spec hex, ?_⟩
  intro i hi
  by_contra hfree'
  exact Nat.find_min hex hi hfree'

/-- Looking through the next few in order finds that one. -/
theorem find_first {m c k n : Nat} {taken : List Nat} (hk : k ≤ n) (hfree : (c + k) % m ∉ taken)
    (htaken : ∀ j < k, (c + j) % m ∈ taken) :
    ((List.range (n + 1)).map fun j => (c + j) % m).find? (· ∉ taken) = some ((c + k) % m) := by
  rw [List.find?_map, Option.map_eq_some_iff]
  refine ⟨k, List.find?_range_eq_some.mpr ⟨?_, List.mem_range.mpr (by omega), fun j hj => ?_⟩, rfl⟩
  · simpa using hfree
  · simpa using htaken j hj

end FwCore.Lib
