import Mathlib.Data.List.Basic
import Mathlib.Data.List.Nodup

/-!
# An array of equal blocks

`count` blocks of `size` bytes each, one after the other from `start` on. Two
blocks of the array are equal or do not overlap, and the array takes up exactly
the bytes from `start` to `start + count * size`.
-/

namespace FwCore.Lib

/-- The addresses of the blocks. -/
def blocks (start size count : Nat) : List Nat := (List.range count).map (fun i => start + i * size)

/-- Two ranges of `size` bytes do not overlap. -/
def Apart (size a b : Nat) : Prop := a + size ≤ b ∨ b + size ≤ a

/-- Ranges that do not overlap still do not when they get shorter. -/
theorem Apart.mono {size size' a b : Nat} (h : Apart size a b) (hs : size' ≤ size) :
    Apart size' a b := by
  rcases h with h | h
  · exact Or.inl (by omega)
  · exact Or.inr (by omega)

variable {start size count a b : Nat}

theorem blocks_length : (blocks start size count).length = count := by
  rw [blocks, List.length_map, List.length_range]

theorem mem_blocks : a ∈ blocks start size count ↔ ∃ i, i < count ∧ a = start + i * size := by
  rw [blocks, List.mem_map]
  constructor
  · intro ⟨i, hi, he⟩
    exact ⟨i, List.mem_range.mp hi, he.symm⟩
  · intro ⟨i, hi, he⟩
    exact ⟨i, List.mem_range.mpr hi, he.symm⟩

theorem blocks_succ :
    blocks start size (count + 1) = blocks start size count ++ [start + count * size] := by
  rw [blocks, List.range_succ, List.map_append]
  rfl

/-- A block lies inside the array. -/
theorem block_inside (h : a ∈ blocks start size count) :
    start ≤ a ∧ a + size ≤ start + count * size := by
  obtain ⟨i, hi, rfl⟩ := mem_blocks.mp h
  have : (i + 1) * size ≤ count * size := Nat.mul_le_mul_right size hi
  rw [Nat.succ_mul] at this
  omega

/-- Two different blocks do not overlap. -/
theorem blocks_apart (ha : a ∈ blocks start size count) (hb : b ∈ blocks start size count)
    (hne : a ≠ b) : Apart size a b := by
  obtain ⟨i, _, rfl⟩ := mem_blocks.mp ha
  obtain ⟨j, _, rfl⟩ := mem_blocks.mp hb
  rcases Nat.lt_trichotomy i j with hij | hij | hij
  · have : (i + 1) * size ≤ j * size := Nat.mul_le_mul_right size hij
    rw [Nat.succ_mul] at this
    exact Or.inl (by omega)
  · exact absurd (by rw [hij]) hne
  · have : (j + 1) * size ≤ i * size := Nat.mul_le_mul_right size hij
    rw [Nat.succ_mul] at this
    exact Or.inr (by omega)

theorem blocks_nodup (hs : 0 < size) : (blocks start size count).Nodup := by
  refine List.Nodup.map ?_ List.nodup_range
  intro i j hij
  have hmul : i * size = j * size := Nat.add_left_cancel hij
  exact Nat.eq_of_mul_eq_mul_right hs hmul

end FwCore.Lib
