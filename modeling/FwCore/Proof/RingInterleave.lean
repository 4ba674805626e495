import FwCore.Proof.RingRep

/-!
# One producer, one consumer, any interleaving

Each side decides on a stale copy of the other side's index. The copies are stale
in the safe direction only: while the producer holds a copy of the read index the
consumer can only make more room, and while the consumer holds a copy of the
write index the producer can only add bytes. So what a side found out at its load
stays true until it acts on it, and that is what `WriterOk` and `ReaderOk` record
at each program point.

The log of `RingRep` is the ghost `committed`, and the consumer's position in it
is the number of bytes returned.
-/

namespace FwCore.Proof

open FwCore

/-- What the producer knows at each point of a write. -/
def WriterOk (k : Nat) (w : RingWorld) : Prop :=
  match w.writer with
  | .idle => True
  | .loaded _ wi => wi = w.rb.writeIndex
  | .storing _ wi next => wi = w.rb.writeIndex
      ∧ next.toNat = (w.committed.length + 1) % 2 ^ k
      ∧ w.committed.length + 1 < w.returned.length + 2 ^ k
  | .publishing byte wi next => wi = w.rb.writeIndex
      ∧ next.toNat = (w.committed.length + 1) % 2 ^ k
      ∧ w.committed.length + 1 < w.returned.length + 2 ^ k
      ∧ w.rb.buffer[wi.toNat]? = some byte

/-- What the consumer knows at each point of a read. -/
def ReaderOk (w : RingWorld) : Prop :=
  match w.reader with
  | .idle => True
  | .loaded r => r = w.rb.readIndex
  | .fetching r => r = w.rb.readIndex ∧ w.returned.length < w.committed.length
  | .releasing r byte => r = w.rb.readIndex ∧ w.committed[w.returned.length]? = some byte

/-- The invariant of the interleaved system. -/
structure RingInv (k : Nat) (w : RingWorld) : Prop where
  /-- The buffer holds what is committed and not yet returned. -/
  rep : RingRep k w.rb w.committed w.returned.length
  /-- Bytes come back in the order they were committed. -/
  order : w.returned <+: w.committed
  /-- The producer's local copies are good. -/
  writer : WriterOk k w
  /-- The consumer's local copies are good. -/
  reader : ReaderOk w
  /-- A write was refused only by a full buffer. -/
  refusedWrites : ∀ n ∈ w.refusedWrites, n = 2 ^ k - 1
  /-- A read was refused only by an empty one. -/
  refusedReads : ∀ n ∈ w.refusedReads, n = 0

theorem ringInv_init {k : Nat} {rb : RingBuffer} (h : RingRep k rb [] 0) :
    RingInv k (.init rb) where
  rep := h
  order := List.prefix_refl _
  writer := trivial
  reader := trivial
  refusedWrites := fun _ hn => absurd hn (by simp [RingWorld.init])
  refusedReads := fun _ hn => absurd hn (by simp [RingWorld.init])

section

variable {k : Nat} {w : RingWorld}

/-- The producer's slot, while it stores and publishes, is not one the consumer has selected. -/
theorem RingInv.slots_differ (h : RingInv k w) {s r : UInt32} (hs : w.writer.slot = some s)
    (hr : w.reader.slot = some r) : s ≠ r := by
  -- both slots are the current indices, and they are equal only when nothing is unread
  have hw : s = w.rb.writeIndex := by
    have hok := h.writer
    unfold WriterOk at hok
    cases hpc : w.writer with
    | idle => rw [hpc] at hs; exact absurd hs (by simp [WriterPc.slot])
    | loaded byte wi => rw [hpc] at hs; exact absurd hs (by simp [WriterPc.slot])
    | storing byte wi next =>
        rw [hpc] at hs hok
        rw [← Option.some.inj hs]; exact hok.1
    | publishing byte wi next =>
        rw [hpc] at hs hok
        rw [← Option.some.inj hs]; exact hok.1
  have hrd : r = w.rb.readIndex ∧ w.returned.length < w.committed.length := by
    have hok := h.reader
    unfold ReaderOk at hok
    cases hpc : w.reader with
    | idle => rw [hpc] at hr; exact absurd hr (by simp [ReaderPc.slot])
    | loaded ri => rw [hpc] at hr; exact absurd hr (by simp [ReaderPc.slot])
    | fetching ri =>
        rw [hpc] at hr hok
        rw [← Option.some.inj hr]; exact hok
    | releasing ri byte =>
        rw [hpc] at hr hok
        rw [← Option.some.inj hr]
        exact ⟨hok.1, (List.getElem?_eq_some_iff.mp hok.2).1⟩
  intro he
  have := h.rep.empty_iff.mp (by rw [← hw, ← hrd.1, he])
  omega

/-! ## The producer's steps -/

theorem ringInv_producer (h : RingInv k w) (byte : UInt8) : RingInv k (producerStep byte w) := by
  have hok := h.writer
  have hrep := h.rep
  unfold WriterOk at hok
  unfold producerStep
  cases hpc : w.writer with
  | idle => exact ⟨hrep, h.order, rfl, h.reader, h.refusedWrites, h.refusedReads⟩
  | loaded b wi =>
      rw [hpc] at hok
      dsimp only at hok ⊢
      subst hok
      have hnext := hrep.next hrep.write
      have hfull := hrep.full_iff hnext
      have hlt := hrep.room
      split
      · -- refused: the copy of the read index was taken in this very step
        rename_i he
        have hf := hfull.mp he
        refine ⟨hrep, h.order, trivial, h.reader, ?_, h.refusedReads⟩
        intro n hn
        rcases List.mem_append.mp hn with hn | hn
        · exact h.refusedWrites n hn
        · rw [List.mem_singleton.mp hn, RingWorld.held]
          omega
      · -- room, and the consumer can only make more of it from now on
        rename_i he
        have hne : w.committed.length + 1 ≠ w.returned.length + 2 ^ k := fun hf => he (hfull.mpr hf)
        have hroom : w.committed.length + 1 < w.returned.length + 2 ^ k := by omega
        exact ⟨hrep, h.order, ⟨rfl, hnext, hroom⟩, h.reader, h.refusedWrites, h.refusedReads⟩
  | storing b wi next =>
      rw [hpc] at hok
      dsimp only at hok ⊢
      obtain ⟨hwi, hnext, hroom⟩ := hok
      subst hwi
      -- the slot is outside the unread ones, so the log is still held
      have hstored := hrep.holds.store hrep.lap b
      rw [← hrep.slot] at hstored
      refine ⟨⟨hrep.bits, ?_, hrep.mask, hrep.read, hrep.write, hstored, hrep.room⟩, h.order,
        ⟨rfl, hnext, hroom, List.getElem?_set_self hrep.write_inside⟩, h.reader, h.refusedWrites,
        h.refusedReads⟩
      show (w.rb.buffer.set _ _).length = _
      rw [List.length_set]; exact hrep.size
  | publishing b wi next =>
      rw [hpc] at hok
      dsimp only at hok ⊢
      obtain ⟨hwi, hnext, hroom, hcell⟩ := hok
      subst hwi
      rw [hrep.slot] at hcell
      refine ⟨⟨hrep.bits, hrep.size, hrep.mask, hrep.read, ?_, hrep.holds.push hrep.lap hcell, ?_⟩,
        h.order.trans (List.prefix_append _ _), trivial, ?_, h.refusedWrites, h.refusedReads⟩
      · rw [List.length_append]; exact hnext
      · rw [List.length_append]; exact hroom
      · -- the consumer's entry is still where it was in the longer log
        have hr := h.reader
        unfold ReaderOk at hr ⊢
        dsimp only
        cases hrpc : w.reader with
        | idle => trivial
        | loaded r => rw [hrpc] at hr; exact hr
        | fetching r =>
            rw [hrpc] at hr
            exact ⟨hr.1, by rw [List.length_append]; exact Nat.lt_succ_of_lt hr.2⟩
        | releasing r x =>
            rw [hrpc] at hr
            have hlt := (List.getElem?_eq_some_iff.mp hr.2).1
            exact ⟨hr.1, by rw [List.getElem?_append_left hlt]; exact hr.2⟩

/-! ## The consumer's steps -/

theorem ringInv_consumer (h : RingInv k w) : RingInv k (consumerStep w) := by
  have hok := h.reader
  have hrep := h.rep
  have hle := hrep.holds.le
  unfold ReaderOk at hok
  unfold consumerStep
  cases hpc : w.reader with
  | idle => exact ⟨hrep, h.order, h.writer, rfl, h.refusedWrites, h.refusedReads⟩
  | loaded r =>
      rw [hpc] at hok
      dsimp only at hok ⊢
      subst hok
      have hempty := hrep.empty_iff
      split
      · -- refused: the copy of the write index was taken in this very step
        rename_i he
        have hf := hempty.mp he
        refine ⟨hrep, h.order, h.writer, trivial, h.refusedWrites, ?_⟩
        intro n hn
        rcases List.mem_append.mp hn with hn | hn
        · exact h.refusedReads n hn
        · rw [List.mem_singleton.mp hn, RingWorld.held]
          omega
      · -- a byte, and the producer can only add to it from now on
        rename_i he
        have hne : w.returned.length ≠ w.committed.length := fun hf => he (hempty.mpr hf)
        have hlt : w.returned.length < w.committed.length := by omega
        exact ⟨hrep, h.order, h.writer, ⟨rfl, hlt⟩, h.refusedWrites, h.refusedReads⟩
  | fetching r =>
      rw [hpc] at hok
      dsimp only at hok ⊢
      obtain ⟨hr, hlt⟩ := hok
      subst hr
      refine ⟨hrep, h.order, h.writer, ⟨rfl, ?_⟩, h.refusedWrites, h.refusedReads⟩
      -- the slot still holds the oldest unread byte
      have hcell := hrep.holds.cell _ (Nat.le_refl _) hlt
      rw [hrep.size, ← hrep.read] at hcell
      show w.committed[w.returned.length]? = some (w.rb.buffer.getD _ 0)
      rw [List.getD_eq_getElem?_getD, hcell, List.getElem?_eq_getElem hlt]
      rfl
  | releasing r byte =>
      rw [hpc] at hok
      dsimp only at hok ⊢
      obtain ⟨hr, hbyte⟩ := hok
      subst hr
      obtain ⟨hlt, hget⟩ := List.getElem?_eq_some_iff.mp hbyte
      have hlen : (w.returned ++ [byte]).length = w.returned.length + 1 := by
        rw [List.length_append]; rfl
      refine ⟨⟨hrep.bits, hrep.size, hrep.mask, ?_, hrep.write, ?_, ?_⟩, ?_, ?_, trivial,
        h.refusedWrites, h.refusedReads⟩
      · rw [hlen]; exact hrep.next hrep.read
      · rw [hlen]; exact hrep.holds.pop hlt
      · have hroom : w.committed.length < w.returned.length + 1 + 2 ^ k := by
          have := hrep.room; omega
        rw [hlen]; exact hroom
      · -- the byte fetched is the next of the committed ones
        obtain ⟨rest, hrest⟩ := h.order
        rw [← hrest, List.getElem?_append_right (Nat.le_refl _), Nat.sub_self] at hbyte
        cases rest with
        | nil => exact absurd hbyte (by simp)
        | cons x xs =>
            have hx : x = byte := by simpa using hbyte
            exact ⟨xs, by rw [← hrest, hx]; simp⟩
      · -- releasing a slot only makes room for the producer
        have hw := h.writer
        unfold WriterOk at hw ⊢
        dsimp only
        cases hwpc : w.writer with
        | idle => trivial
        | loaded b wi => rw [hwpc] at hw; exact hw
        | storing b wi next =>
            rw [hwpc] at hw
            have hroom : w.committed.length + 1 < w.returned.length + 1 + 2 ^ k := by
              have := hw.2.2; omega
            exact ⟨hw.1, hw.2.1, by rw [hlen]; exact hroom⟩
        | publishing b wi next =>
            rw [hwpc] at hw
            have hroom : w.committed.length + 1 < w.returned.length + 1 + 2 ^ k := by
              have := hw.2.2.1; omega
            exact ⟨hw.1, hw.2.1, by rw [hlen]; exact hroom, hw.2.2.2⟩

theorem ringInv_step (h : RingInv k w) (turn : Turn) : RingInv k (w.step turn) := by
  cases turn with
  | producer byte => exact ringInv_producer h byte
  | consumer => exact ringInv_consumer h

theorem ringInv_run (h : RingInv k w) (turns : List Turn) : RingInv k (w.run turns) := by
  induction turns generalizing w with
  | nil => exact h
  | cons turn turns ih => exact ih (ringInv_step h turn)

/-! ## The steps are the calls, cut up -/

/-- Left alone, the producer's steps make one whole `ring_buffer_write`. -/
theorem producer_alone (h : RingInv k w) (hidle : w.writer = .idle) (byte : UInt8) :
    (ringBufferWrite w.rb byte = some (false, w.rb)
        ∧ w.run (List.replicate 2 (.producer byte))
          = { w with refusedWrites := w.refusedWrites ++ [w.held] })
      ∨ ∃ rb', ringBufferWrite w.rb byte = some (true, rb')
        ∧ w.run (List.replicate 4 (.producer byte))
          = { w with rb := rb', committed := w.committed ++ [byte] } := by
  have hlt := h.rep.write_inside
  obtain ⟨rb, writer, reader, committed, returned, rw_, rr⟩ := w
  dsimp only at hidle hlt
  subst hidle
  by_cases hf : (rb.writeIndex + 1) &&& rb.mask = rb.readIndex
  · left
    refine ⟨by rw [ringBufferWrite, if_pos hf], ?_⟩
    simp [List.replicate, RingWorld.run, RingWorld.step, producerStep, hf, RingWorld.held]
  · right
    refine ⟨_, by rw [ringBufferWrite, if_neg hf, if_pos hlt], ?_⟩
    simp [List.replicate, RingWorld.run, RingWorld.step, producerStep, hf]

/-- Left alone, the consumer's steps make one whole `ring_buffer_read`. -/
theorem consumer_alone (h : RingInv k w) (hidle : w.reader = .idle) (byte : UInt8) :
    (ringBufferRead w.rb byte = some (false, w.rb, byte)
        ∧ w.run (List.replicate 2 .consumer)
          = { w with refusedReads := w.refusedReads ++ [w.held] })
      ∨ ∃ rb' x, ringBufferRead w.rb byte = some (true, rb', x)
        ∧ w.run (List.replicate 4 .consumer)
          = { w with rb := rb', returned := w.returned ++ [x] } := by
  have hlt := h.rep.read_inside
  obtain ⟨rb, writer, reader, committed, returned, rw_, rr⟩ := w
  dsimp only at hidle hlt
  subst hidle
  by_cases hf : rb.readIndex = rb.writeIndex
  · left
    refine ⟨by rw [ringBufferRead, if_pos hf], ?_⟩
    simp [List.replicate, RingWorld.run, RingWorld.step, consumerStep, hf, RingWorld.held]
  · right
    refine ⟨_, _, by rw [ringBufferRead, if_neg hf, List.getElem?_eq_getElem hlt]; rfl, ?_⟩
    simp [List.replicate, RingWorld.run, RingWorld.step, consumerStep, hf,
      List.getElem?_eq_getElem hlt]

end

/--
**Safety under every interleaving.**

For a buffer of `2 ^ k` bytes and any schedule of the two sides' steps: what has
been returned is a prefix of what has been committed; the slot being stored into
is not a slot selected and not yet released; both indices stay inside the buffer;
and a call is refused only if the buffer held all but one of its bytes, or none,
at the load that decided it.
-/
theorem ringBuffer_safe_interleaved (k : Nat) (size : UInt32) (buffer : List UInt8)
    (hsize : size.toNat = 2 ^ k) (hlen : buffer.length = 2 ^ k) (turns : List Turn) :
    let w := (RingWorld.init (ringBufferSetup buffer size)).run turns
    w.returned <+: w.committed
      ∧ (∀ s r, w.writer.slot = some s → w.reader.slot = some r → s ≠ r)
      ∧ w.rb.readIndex.toNat < 2 ^ k ∧ w.rb.writeIndex.toNat < 2 ^ k
      ∧ (∀ n ∈ w.refusedWrites, n = 2 ^ k - 1) ∧ (∀ n ∈ w.refusedReads, n = 0) := by
  intro w
  have hinv : RingInv k w := ringInv_run (ringInv_init (ringRep_setup hsize hlen)) turns
  exact ⟨hinv.order, fun s r hs hr => hinv.slots_differ hs hr, hinv.rep.read_lt, hinv.rep.write_lt,
    hinv.refusedWrites, hinv.refusedReads⟩

/-- Two bytes of buffer: a read and a write overlap, and a second write finds it full. -/
theorem ringBuffer_safe_interleaved_two :
    let w := (RingWorld.init (ringBufferSetup [0, 0] 2)).run
      [.consumer, .producer 7, .producer 7, .consumer, .producer 7, .producer 7, .producer 8,
        .consumer, .producer 8, .consumer, .consumer, .consumer]
    w.returned <+: w.committed ∧ w.returned = [7] ∧ w.refusedWrites = [1] ∧ w.refusedReads = [0] :=
  ⟨(ringBuffer_safe_interleaved 1 2 [0, 0] (by decide) rfl _).1, by decide⟩

end FwCore.Proof
