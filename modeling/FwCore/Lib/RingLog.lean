import Mathlib.Data.Nat.ModEq

/-!
# A log seen through a ring of cells

A producer appends to an unbounded log, a consumer reads it in order, and only
the stretch between the two is stored, in a ring: entry `i` of the log lives in
cell `i % n`. `RingHolds cells log lo` says that every entry from `lo` on can be
found where it should be. Positions in the log never wrap, so the statements
about it are free of modular arithmetic; the arithmetic is confined to
`mod_inj`, which says that two positions less than a lap apart use two cells.
-/

namespace FwCore.Lib

/-- Positions less than a lap apart use different cells. -/
theorem mod_inj {n a b : Nat} (hab : a ≤ b) (hlt : b < a + n) (h : a % n = b % n) : a = b := by
  have hdvd : n ∣ b - a := (Nat.modEq_iff_dvd' hab).mp h
  have := Nat.eq_zero_of_dvd_of_lt hdvd (by omega)
  omega

/-- The ring position after the one of `a`. -/
theorem succ_mod (n a : Nat) : (a % n + 1) % n = (a + 1) % n := by
  rw [Nat.mod_add_mod]

variable {α : Type}

/-- The log from `lo` on is in the cells. -/
structure RingHolds (cells log : List α) (lo : Nat) : Prop where
  /-- The consumer is not ahead of the producer. -/
  le : lo ≤ log.length
  /-- The producer is at most one lap ahead. -/
  lap : log.length ≤ lo + cells.length
  /-- Every unread entry is in its cell. -/
  cell : ∀ i, lo ≤ i → i < log.length → cells[i % cells.length]? = log[i]?

theorem RingHolds.empty (cells : List α) : RingHolds cells [] 0 where
  le := Nat.le_refl _
  lap := Nat.zero_le _
  cell := fun i _ hi => absurd hi (Nat.not_lt_zero i)

/-- Reading moves the consumer on by one entry. -/
theorem RingHolds.pop {cells log : List α} {lo : Nat} (h : RingHolds cells log lo)
    (hlt : lo < log.length) : RingHolds cells log (lo + 1) where
  le := hlt
  lap := by have := h.lap; omega
  cell := fun i hi => h.cell i (by omega)

/-- Storing into the producer's cell disturbs no unread entry, unless the ring is full. -/
theorem RingHolds.store {cells log : List α} {lo : Nat} (h : RingHolds cells log lo)
    (hroom : log.length < lo + cells.length) (x : α) :
    RingHolds (cells.set (log.length % cells.length) x) log lo where
  le := h.le
  lap := by rw [List.length_set]; exact h.lap
  cell := by
    intro i hi hilt
    have hne : log.length % cells.length ≠ i % cells.length := by
      intro he
      have := mod_inj (Nat.le_of_lt hilt) (by omega) he.symm
      omega
    rw [List.length_set, List.getElem?_set_ne hne]
    exact h.cell i hi hilt

/-- Once the producer's cell holds the next entry, the log can be extended by it. -/
theorem RingHolds.push {cells log : List α} {lo : Nat} (h : RingHolds cells log lo)
    (hroom : log.length < lo + cells.length) {x : α}
    (hx : cells[log.length % cells.length]? = some x) : RingHolds cells (log ++ [x]) lo where
  le := by have := h.le; rw [List.length_append]; omega
  lap := by rw [List.length_append]; exact hroom
  cell := by
    intro i hi hilt
    rw [List.length_append, List.length_singleton] at hilt
    rcases Nat.lt_or_ge i log.length with hlt | hge
    · rw [List.getElem?_append_left hlt]
      exact h.cell i hi hlt
    · obtain rfl : i = log.length := by omega
      rw [hx, List.getElem?_append_right (Nat.le_refl _), Nat.sub_self]
      rfl

end FwCore.Lib
