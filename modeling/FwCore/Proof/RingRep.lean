import FwCore.Shared.RingBuffer
import FwCore.Lib.RingLog

/-!
# What the two indices stand for

The code keeps two masked indices; the argument is about two positions in an
unbounded log of bytes. `RingRep` is the link: the read index is the consumer's
position taken modulo the size, the write index is the log's length taken modulo
the size, and the two are always less than a lap apart. Masking is reduction
modulo a power of two, so the code's two comparisons read off as equations
between positions: equal indices mean nothing unread, and a next index equal to
the read index means a full lap less one.
-/

namespace FwCore.Proof

open FwCore

/-- The code's buffer of `2 ^ k` bytes holds the log from `lo` on. -/
structure RingRep (k : Nat) (rb : RingBuffer) (log : List UInt8) (lo : Nat) : Prop where
  /-- An index fits its type. -/
  bits : k < 32
  /-- The buffer has the size it was set up with. -/
  size : rb.buffer.length = 2 ^ k
  /-- The mask keeps the low `k` bits. -/
  mask : rb.mask.toNat = 2 ^ k - 1
  /-- The read index is the consumer's position. -/
  read : rb.readIndex.toNat = lo % 2 ^ k
  /-- The write index is the producer's. -/
  write : rb.writeIndex.toNat = log.length % 2 ^ k
  /-- Unread bytes are in their slots. -/
  holds : Lib.RingHolds rb.buffer log lo
  /-- One slot is always empty. -/
  room : log.length < lo + 2 ^ k

section

variable {k : Nat} {rb : RingBuffer} {log : List UInt8} {lo : Nat}

theorem RingRep.size_lt (h : RingRep k rb log lo) : 2 ^ k ≤ 2 ^ 31 :=
  Nat.pow_le_pow_right (by decide) (by have := h.bits; omega)

theorem RingRep.read_lt (h : RingRep k rb log lo) : rb.readIndex.toNat < 2 ^ k := by
  rw [h.read]; exact Nat.mod_lt _ (Nat.two_pow_pos k)

theorem RingRep.write_lt (h : RingRep k rb log lo) : rb.writeIndex.toNat < 2 ^ k := by
  rw [h.write]; exact Nat.mod_lt _ (Nat.two_pow_pos k)

theorem RingRep.read_inside (h : RingRep k rb log lo) :
    rb.readIndex.toNat < rb.buffer.length := by
  rw [h.size]; exact h.read_lt

theorem RingRep.write_inside (h : RingRep k rb log lo) :
    rb.writeIndex.toNat < rb.buffer.length := by
  rw [h.size]; exact h.write_lt

/-- The write index is the slot of the next entry. -/
theorem RingRep.slot (h : RingRep k rb log lo) :
    rb.writeIndex.toNat = log.length % rb.buffer.length := by
  rw [h.size]; exact h.write

/-- The next entry is less than a lap away from the oldest unread one. -/
theorem RingRep.lap (h : RingRep k rb log lo) : log.length < lo + rb.buffer.length := by
  rw [h.size]; exact h.room

/-- Masking an incremented index moves its position on by one. -/
theorem RingRep.next (h : RingRep k rb log lo) {i : UInt32} {n : Nat} (hi : i.toNat = n % 2 ^ k) :
    ((i + 1) &&& rb.mask).toNat = (n + 1) % 2 ^ k := by
  have hlt : n % 2 ^ k < 2 ^ k := Nat.mod_lt _ (Nat.two_pow_pos k)
  have hle := h.size_lt
  rw [UInt32.toNat_and, UInt32.toNat_add, h.mask, hi, UInt32.toNat_one,
    Nat.mod_eq_of_lt (a := n % 2 ^ k + 1) (by omega), Nat.and_two_pow_sub_one_eq_mod, Lib.succ_mod]

/-- Equal indices mean that nothing is unread. -/
theorem RingRep.empty_iff (h : RingRep k rb log lo) :
    rb.readIndex = rb.writeIndex ↔ lo = log.length := by
  rw [← UInt32.toNat_inj, h.read, h.write]
  constructor
  · exact Lib.mod_inj h.holds.le h.room
  · intro he; rw [he]

/-- The write index would catch up with the read index exactly when all but one slot is used. -/
theorem RingRep.full_iff (h : RingRep k rb log lo) {next : UInt32}
    (hn : next.toNat = (log.length + 1) % 2 ^ k) :
    next = rb.readIndex ↔ log.length + 1 = lo + 2 ^ k := by
  have hle := h.holds.le
  have hroom := h.room
  rw [← UInt32.toNat_inj, hn, h.read, ← Nat.add_mod_right lo (2 ^ k)]
  constructor
  · intro he
    -- the two positions are at most a lap apart, and not level
    rcases Nat.lt_or_ge (log.length + 1) (lo + 2 ^ k) with hlt | hge
    · exact Lib.mod_inj (Nat.le_of_lt hlt) (by omega) he
    · omega
  · intro he; rw [he]

/-! ## The whole calls -/

/-- A write to a full buffer is refused; any other stores one byte and extends the log. -/
theorem RingRep.write_cases (h : RingRep k rb log lo) (byte : UInt8) :
    (log.length + 1 = lo + 2 ^ k ∧ ringBufferWrite rb byte = some (false, rb))
      ∨ (log.length + 1 < lo + 2 ^ k ∧ ∃ rb', ringBufferWrite rb byte = some (true, rb')
          ∧ RingRep k rb' (log ++ [byte]) lo) := by
  have hnext := h.next h.write
  have hfull := h.full_iff hnext
  have hroom := h.room
  by_cases hf : log.length + 1 = lo + 2 ^ k
  · left
    exact ⟨hf, by rw [ringBufferWrite, if_pos (hfull.mpr hf)]⟩
  · right
    have hwlt := h.write_inside
    have hslot := h.slot
    refine ⟨by omega, { rb with
        buffer := rb.buffer.set rb.writeIndex.toNat byte
        writeIndex := (rb.writeIndex + 1) &&& rb.mask }, ?_,
      h.bits, ?_, h.mask, h.read, ?_, ?_, ?_⟩
    · rw [ringBufferWrite, if_neg (fun he => hf (hfull.mp he)), if_pos hwlt]
    · rw [List.length_set]; exact h.size
    · rw [List.length_append, List.length_singleton]; exact hnext
    · -- the slot is free, so storing keeps the unread bytes; then it holds the next entry
      have hstored := h.holds.store h.lap byte
      rw [← hslot] at hstored
      refine hstored.push (by rw [List.length_set]; exact h.lap) ?_
      rw [List.length_set, ← hslot]
      exact List.getElem?_set_self hwlt
    · rw [List.length_append, List.length_singleton]; omega

/-- A read of an empty buffer is refused; any other yields the oldest unread byte. -/
theorem RingRep.read_cases (h : RingRep k rb log lo) (byte : UInt8) :
    (lo = log.length ∧ ringBufferRead rb byte = some (false, rb, byte))
      ∨ (∃ x rb', log[lo]? = some x ∧ ringBufferRead rb byte = some (true, rb', x)
          ∧ RingRep k rb' log (lo + 1)) := by
  have hempty := h.empty_iff
  have hle := h.holds.le
  by_cases he : lo = log.length
  · left
    exact ⟨he, by rw [ringBufferRead, if_pos (hempty.mpr he)]⟩
  · right
    have hlt : lo < log.length := by omega
    have hx : log[lo]? = some log[lo] := List.getElem?_eq_getElem hlt
    have hcell := h.holds.cell lo (Nat.le_refl lo) hlt
    rw [h.size, ← h.read, hx] at hcell
    refine ⟨log[lo], { rb with readIndex := (rb.readIndex + 1) &&& rb.mask }, hx, ?_,
      h.bits, h.size, h.mask, h.next h.read, h.write, h.holds.pop hlt, ?_⟩
    · rw [ringBufferRead, if_neg (fun hc => he (hempty.mp hc)), hcell]
      rfl
    · have := h.room; omega

end

/-- A freshly set up buffer holds the empty log. -/
theorem ringRep_setup {k : Nat} {size : UInt32} {buffer : List UInt8}
    (hsize : size.toNat = 2 ^ k) (hlen : buffer.length = 2 ^ k) :
    RingRep k (ringBufferSetup buffer size) [] 0 := by
  have hpos := Nat.two_pow_pos k
  have hbits : k < 32 := by
    have hlt := size.toNat_lt
    rw [hsize] at hlt
    exact (Nat.pow_lt_pow_iff_right (by decide)).mp hlt
  refine ⟨hbits, hlen, ?_, ?_, ?_, Lib.RingHolds.empty buffer, ?_⟩
  · show (size - 1).toNat = _
    have h1 : (1 : UInt32) ≤ size := UInt32.le_iff_toNat_le.mpr (by rw [hsize]; exact hpos)
    rw [UInt32.toNat_sub_of_le _ _ h1, hsize]
    rfl
  · exact (Nat.zero_mod _).symm
  · exact (Nat.zero_mod _).symm
  · rw [Nat.zero_add]
    exact hpos

end FwCore.Proof
