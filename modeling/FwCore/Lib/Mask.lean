import Mathlib.Logic.Basic

/-!
# Bit masks as sets

A word of `w` bits is a set of numbers below `w`. Setting and clearing a bit change
membership of that number and of no other, and the empty set is the word zero.
-/

namespace FwCore.Lib

variable {w : Nat}

/-- `m | (1 << i)`. -/
def setBit (m : BitVec w) (i : Nat) : BitVec w := m ||| (1#w <<< i)

/-- `m & ~(1 << i)`. -/
def clearBit (m : BitVec w) (i : Nat) : BitVec w := m &&& ~~~(1#w <<< i)

theorem getLsbD_one_shift (i j : Nat) :
    (1#w <<< i).getLsbD j = (decide (j < w) && decide (j = i)) := by
  rw [BitVec.getLsbD_shiftLeft, BitVec.getLsbD_one]
  grind

theorem setBit_self (m : BitVec w) {i : Nat} (hi : i < w) : (setBit m i).getLsbD i = true := by
  rw [setBit, BitVec.getLsbD_or, getLsbD_one_shift]
  simp [hi]

theorem setBit_other (m : BitVec w) {i j : Nat} (hne : j ≠ i) :
    (setBit m i).getLsbD j = m.getLsbD j := by
  rw [setBit, BitVec.getLsbD_or, getLsbD_one_shift]
  simp [hne]

theorem clearBit_self (m : BitVec w) (i : Nat) : (clearBit m i).getLsbD i = false := by
  rw [clearBit, BitVec.getLsbD_and, BitVec.getLsbD_not, getLsbD_one_shift]
  cases Nat.decLt i w with
  | isTrue h => simp [h]
  | isFalse h => simp [BitVec.getLsbD_of_ge m i (Nat.le_of_not_lt h)]

theorem clearBit_other (m : BitVec w) {i j : Nat} (hne : j ≠ i) :
    (clearBit m i).getLsbD j = m.getLsbD j := by
  rw [clearBit, BitVec.getLsbD_and, BitVec.getLsbD_not, getLsbD_one_shift]
  cases Nat.decLt j w with
  | isTrue h => simp [h, hne]
  | isFalse h => simp [BitVec.getLsbD_of_ge m j (Nat.le_of_not_lt h)]

/-- A word is not zero iff some bit of it is set. -/
theorem ne_zero_iff (m : BitVec w) : m ≠ 0 ↔ ∃ i, i < w ∧ m.getLsbD i = true := by
  constructor
  · intro hne
    refine Classical.byContradiction (fun hno => hne ?_)
    refine (BitVec.eq_of_getLsbD_eq (fun i hi => ?_))
    have hbit : m.getLsbD i = false := Bool.eq_false_iff.mpr (fun hb => hno ⟨i, hi, hb⟩)
    rw [hbit]
    simp
  · intro ⟨i, _, hb⟩ h0
    rw [h0] at hb
    simp at hb

end FwCore.Lib
