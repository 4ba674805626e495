import FwCore.Proof.RingLinear

/-!
# A ring buffer of any size

`ring_buffer_setup` does not look whether the size is a power of two, which the mask takes
for granted. If it is not, let `2 ^ k` be the largest power of two that divides it. Its lowest
`k` bits are zero and the next is one, so the lowest `k` bits of the mask are ones and the
next is zero: an index that has come to `2 ^ k` is masked to zero, and none gets further. So
the buffer is one of `2 ^ k` bytes (`narrow`), and the bytes beyond are never used. Of an odd
size nothing is left: such a buffer refuses every byte.
-/

namespace FwCore.Proof

open FwCore

section

variable {k : Nat} {rb rb' : RingBuffer} {w : RingWorld}

/-! ## Masks -/

/-- The mask of `2 ^ k` bytes. -/
def lowMask (k : Nat) : UInt32 := UInt32.ofNat (2 ^ k - 1)

/-- As far as indices below `2 ^ k` go, the mask is that of `2 ^ k` bytes. -/
def WrapsAt (k : Nat) (mask : UInt32) : Prop :=
  ∀ i : UInt32, i.toNat < 2 ^ k → (i + 1) &&& mask = (i + 1) &&& lowMask k

theorem lowMask_toNat (hk : k < 32) : (lowMask k).toNat = 2 ^ k - 1 := by
  have hlt : 2 ^ k < 2 ^ 32 := Nat.pow_lt_pow_right (by decide) hk
  unfold lowMask
  rw [UInt32.toNat_ofNat']
  exact Nat.mod_eq_of_lt (by omega)

/-- One less than an odd multiple of `2 ^ k`, as the lowest bits see it. -/
theorem odd_mask (k q : Nat) : (2 ^ k * (2 * q + 1) - 1) % 2 ^ (k + 1) = 2 ^ k - 1 := by
  have hpos := Nat.two_pow_pos k
  have hsplit : 2 ^ k * (2 * q + 1) - 1 = 2 ^ k - 1 + 2 ^ (k + 1) * q := by
    rw [Nat.pow_succ, Nat.mul_assoc, Nat.mul_add, Nat.mul_one]
    omega
  rw [hsplit, Nat.add_mul_mod_self_left]
  refine Nat.mod_eq_of_lt ?_
  rw [Nat.pow_succ]
  omega

theorem wrapsAt_size {size : UInt32} {q : Nat} (hk : k < 32)
    (hsize : size.toNat = 2 ^ k * (2 * q + 1)) : WrapsAt k (size - 1) := by
  intro i hi
  have hpos := Nat.two_pow_pos k
  have hlt : 2 ^ k < 2 ^ 32 := Nat.pow_lt_pow_right (by decide) hk
  have hone : (1 : UInt32) ≤ size := by
    rw [UInt32.le_iff_toNat_le, hsize, UInt32.toNat_one]
    exact Nat.mul_pos hpos (by omega)
  have hnext : (i + 1).toNat = i.toNat + 1 := by
    rw [UInt32.toNat_add, UInt32.toNat_one]
    exact Nat.mod_eq_of_lt (by omega)
  have hsmall : i.toNat + 1 < 2 ^ (k + 1) := by
    rw [Nat.pow_succ]
    omega
  -- both sides are below `2 ^ (k + 1)`, and there the masks agree
  have hmod : ∀ m : Nat, (i.toNat + 1) &&& m = (i.toNat + 1) &&& (m % 2 ^ (k + 1)) := by
    intro m
    have hle : (i.toNat + 1) &&& m < 2 ^ (k + 1) := Nat.lt_of_le_of_lt Nat.and_le_left hsmall
    rw [← Nat.mod_eq_of_lt hle, Nat.and_mod_two_pow, Nat.mod_eq_of_lt hsmall]
  have hlow : (2 ^ k - 1) % 2 ^ (k + 1) = 2 ^ k - 1 := by
    refine Nat.mod_eq_of_lt ?_
    rw [Nat.pow_succ]
    omega
  rw [← UInt32.toNat_inj, UInt32.toNat_and, UInt32.toNat_and, hnext, lowMask_toNat hk,
    UInt32.toNat_sub_of_le _ _ hone, hsize, UInt32.toNat_one, hmod, odd_mask]

/-! ## The part that is used -/

/-- The first `2 ^ k` bytes, and their mask. -/
def narrow (k : Nat) (rb : RingBuffer) : RingBuffer :=
  { rb with buffer := rb.buffer.take (2 ^ k), mask := lowMask k }

/-- There is no less than that, and it is all that is used. -/
structure Wide (k : Nat) (rest : List UInt8) (rb : RingBuffer) : Prop where
  length : 2 ^ k ≤ rb.buffer.length
  mask : WrapsAt k rb.mask
  /-- The bytes beyond are as they were. -/
  rest : rb.buffer.drop (2 ^ k) = rest

variable {rest : List UInt8}

/-- Storing a byte there leaves the rest alone. -/
theorem Wide.store (h : Wide k rest rb) {i : Nat} (hi : i < 2 ^ k) (byte : UInt8) :
    Wide k rest { rb with buffer := rb.buffer.set i byte } where
  length := by
    rw [List.length_set]
    exact h.length
  mask := h.mask
  rest := by
    rw [List.drop_set_of_lt hi]
    exact h.rest

/-! ## Whole calls -/

/-- A call does on the buffer what it does on the part that is used. -/
theorem ringCall_narrow (h : Wide k rest rb) (hr : rb.readIndex.toNat < 2 ^ k)
    (hw : rb.writeIndex.toNat < 2 ^ k) (c : RingCall) :
    ringCall (narrow k rb) c = (ringCall rb c).map (fun r => (r.1, narrow k r.2))
      ∧ ∀ r, ringCall rb c = some r → Wide k rest r.2 := by
  have hlen := h.length
  cases c with
  | write byte =>
      have hnext : (rb.writeIndex + 1) &&& lowMask k = (rb.writeIndex + 1) &&& rb.mask :=
        (h.mask rb.writeIndex hw).symm
      have hroom : rb.writeIndex.toNat < (rb.buffer.take (2 ^ k)).length := by
        rw [List.length_take]
        omega
      unfold ringCall ringBufferWrite narrow
      dsimp only
      rw [hnext, if_pos hroom, if_pos (Nat.lt_of_lt_of_le hw hlen)]
      split
      · refine ⟨rfl, fun r hr => ?_⟩
        obtain rfl := Option.some.inj hr
        exact h
      · refine ⟨?_, fun r hr => ?_⟩
        · show some _ = some _
          rw [← List.take_set]
        · obtain rfl := Option.some.inj hr
          have hstored := h.store hw byte
          exact ⟨hstored.length, hstored.mask, hstored.rest⟩
  | read byte =>
      have hnext : (rb.readIndex + 1) &&& lowMask k = (rb.readIndex + 1) &&& rb.mask :=
        (h.mask rb.readIndex hr).symm
      unfold ringCall ringBufferRead narrow
      dsimp only
      rw [hnext, List.getElem?_take_of_lt hr]
      split
      · refine ⟨rfl, fun r hr => ?_⟩
        obtain rfl := Option.some.inj hr
        exact h
      · rw [List.getElem?_eq_getElem (Nat.lt_of_lt_of_le hr hlen)]
        refine ⟨rfl, fun r hr => ?_⟩
        obtain rfl := Option.some.inj hr
        exact ⟨h.length, h.mask, h.rest⟩
  | empty =>
      refine ⟨rfl, fun r hr => ?_⟩
      obtain rfl := Option.some.inj hr
      exact h

/-- The part that is used stands for a queue, and the bytes beyond are as they were. -/
structure QueuedIn (k : Nat) (rest : List UInt8) (rb : RingBuffer)
    (q : Lib.BoundedFifo UInt8 (2 ^ k - 1)) : Prop where
  queued : Queued k (narrow k rb) q
  wide : Wide k rest rb

theorem QueuedIn.indices {q : Lib.BoundedFifo UInt8 (2 ^ k - 1)} (h : QueuedIn k rest rb q) :
    rb.readIndex.toNat < 2 ^ k ∧ rb.writeIndex.toNat < 2 ^ k := by
  obtain ⟨log, lo, hrep, _⟩ := h.queued
  exact ⟨hrep.read_lt, hrep.write_lt⟩

theorem queuedIn_call {q : Lib.BoundedFifo UInt8 (2 ^ k - 1)} (h : QueuedIn k rest rb q)
    (c : RingCall) : ∃ rb', ringCall rb c = some ((fifoCall q c).1, rb')
      ∧ QueuedIn k rest rb' (fifoCall q c).2 := by
  obtain ⟨hr, hw⟩ := h.indices
  obtain ⟨hsame, hwide⟩ := ringCall_narrow h.wide hr hw c
  obtain ⟨narrow', hcall, hq, _⟩ := ringCall_refines h.queued c
  rw [hcall] at hsame
  cases hrb : ringCall rb c with
  | none =>
      rw [hrb] at hsame
      cases hsame
  | some r =>
      obtain ⟨a, rb'⟩ := r
      rw [hrb] at hsame
      obtain ⟨rfl, rfl⟩ := Prod.mk.inj (Option.some.inj hsame)
      exact ⟨rb', rfl, hq, hwide _ hrb⟩

theorem queuedIn_run (calls : List RingCall) {q : Lib.BoundedFifo UInt8 (2 ^ k - 1)}
    (h : QueuedIn k rest rb q) : ∃ rb', ringRun rb calls = some ((fifoRun q calls).1, rb')
      ∧ QueuedIn k rest rb' (fifoRun q calls).2 := by
  induction calls generalizing rb q with
  | nil => exact ⟨rb, rfl, h⟩
  | cons c calls ih =>
      obtain ⟨rb₁, hcall, h₁⟩ := queuedIn_call h c
      obtain ⟨rb₂, hrun, h₂⟩ := ih h₁
      refine ⟨rb₂, ?_, h₂⟩
      rw [ringRun, hcall]
      simp only [Option.bind_eq_bind, Option.bind_some, hrun]
      rfl

/-- Of the highest power of two that divides a size, the size is an odd multiple. -/
theorem odd_multiple {s : Nat} (hdvd : 2 ^ k ∣ s) (hmax : ¬ 2 ^ (k + 1) ∣ s) :
    ∃ q, s = 2 ^ k * (2 * q + 1) := by
  obtain ⟨m, rfl⟩ := hdvd
  refine ⟨m / 2, ?_⟩
  have hodd : m % 2 = 1 := by
    refine Nat.mod_two_ne_zero.mp fun heven => hmax ?_
    rw [Nat.pow_succ]
    exact Nat.mul_dvd_mul_left _ (Nat.dvd_of_mod_eq_zero heven)
  have := Nat.div_add_mod m 2
  rw [hodd] at this
  rw [this]

/-- After `ring_buffer_setup`. -/
theorem wide_setup {size : UInt32} {buffer : List UInt8} (hlen : buffer.length = size.toNat)
    (hdvd : 2 ^ k ∣ size.toNat) (hmax : ¬ 2 ^ (k + 1) ∣ size.toNat) :
    Wide k (buffer.drop (2 ^ k)) (ringBufferSetup buffer size)
      ∧ RingRep k (narrow k (ringBufferSetup buffer size)) [] 0 := by
  obtain ⟨q, hq⟩ := odd_multiple hdvd hmax
  have hpos := Nat.two_pow_pos k
  have hle : 2 ^ k ≤ size.toNat := by
    rw [hq]
    exact Nat.le_mul_of_pos_right _ (by omega)
  have hbits : k < 32 := by
    have hlt := size.toNat_lt
    exact (Nat.pow_lt_pow_iff_right (by decide)).mp (Nat.lt_of_le_of_lt hle hlt)
  refine ⟨⟨?_, wrapsAt_size hbits hq, rfl⟩, ⟨hbits, ?_, lowMask_toNat hbits, ?_, ?_,
    Lib.RingHolds.empty _, ?_⟩⟩
  · show 2 ^ k ≤ buffer.length
    rw [hlen]
    exact hle
  · show (buffer.take (2 ^ k)).length = 2 ^ k
    rw [List.length_take, hlen]
    exact Nat.min_eq_left hle
  · exact (Nat.zero_mod _).symm
  · exact (Nat.zero_mod _).symm
  · rw [Nat.zero_add]
    exact hpos

/-! ## Interleaved steps -/

/-- The world with nothing but the part that is used. -/
def narrowWorld (k : Nat) (w : RingWorld) : RingWorld := { w with rb := narrow k w.rb }

/-- A step does on the buffer what it does on the part that is used, and ends the same call. -/
theorem step_narrow (h : Wide k rest w.rb) (hinv : RingInv k (narrowWorld k w)) (turn : Turn) :
    (narrowWorld k w).step turn = narrowWorld k (w.step turn)
      ∧ (narrowWorld k w).completes turn = w.completes turn
      ∧ Wide k rest (w.step turn).rb := by
  have hr := hinv.rep.read_lt
  have hw := hinv.rep.write_lt
  have hwriter := hinv.writer
  have hreader := hinv.reader
  obtain ⟨rb, writer, reader, committed, returned, refusedWrites, refusedReads⟩ := w
  have hwrap := h.mask
  dsimp only [narrowWorld, narrow] at hr hw hwrap
  cases turn with
  | producer byte =>
      cases writer with
      | idle => exact ⟨rfl, rfl, h⟩
      | loaded b wi =>
          obtain rfl : wi = rb.writeIndex := hwriter
          have hnext := (hwrap rb.writeIndex hw).symm
          by_cases hfull : (rb.writeIndex + 1) &&& rb.mask = rb.readIndex
          · simpa [RingWorld.step, producerStep, RingWorld.completes, narrowWorld, narrow, hnext,
              hfull, RingWorld.held] using h
          · simpa [RingWorld.step, producerStep, RingWorld.completes, narrowWorld, narrow, hnext,
              hfull] using h
      | storing b wi next =>
          obtain rfl : wi = rb.writeIndex := hwriter.1
          have hstored := h.store hw b
          refine ⟨?_, rfl, hstored.length, hstored.mask, hstored.rest⟩
          simp only [RingWorld.step, producerStep, narrowWorld, narrow, List.take_set]
      | publishing b wi next => exact ⟨rfl, rfl, h.length, h.mask, h.rest⟩
  | consumer =>
      cases reader with
      | idle => exact ⟨rfl, rfl, h⟩
      | loaded r =>
          by_cases hempty : r = rb.writeIndex
          · simpa [RingWorld.step, consumerStep, RingWorld.completes, narrowWorld, narrow,
              hempty, RingWorld.held] using h
          · simpa [RingWorld.step, consumerStep, RingWorld.completes, narrowWorld, narrow,
              hempty] using h
      | fetching r =>
          obtain rfl : r = rb.readIndex := hreader.1
          refine ⟨?_, rfl, h⟩
          simp only [RingWorld.step, consumerStep, narrowWorld, narrow,
            List.getD_eq_getElem?_getD, List.getElem?_take_of_lt hr]
      | releasing r byte =>
          obtain rfl : r = rb.readIndex := hreader.1
          have hnext := (hwrap rb.readIndex hr).symm
          refine ⟨?_, rfl, h.length, h.mask, h.rest⟩
          simp only [RingWorld.step, consumerStep, narrowWorld, narrow, hnext]

/-- The part that is used stands for a queue, at every step of an interleaving. -/
structure UnreadIn (k : Nat) (rest : List UInt8) (w : RingWorld)
    (q : Lib.BoundedFifo UInt8 (2 ^ k - 1)) : Prop where
  unread : Unread k (narrowWorld k w) q
  wide : Wide k rest w.rb

/-- **The steps stand for calls of the queue, for a buffer of any size.** -/
theorem anySize_linearizes (k : Nat) (rest : List UInt8) :
    Lib.Linearizes RingWorld.step RingWorld.completes fifoCall (UnreadIn k rest) where
  quiet := by
    intro w q turn hu h
    obtain ⟨hstep, hdone, hwide⟩ := step_narrow hu.wide hu.unread.inv turn
    refine ⟨?_, hwide⟩
    rw [← hstep]
    exact (ring_linearizes k).quiet turn hu.unread (hdone.trans h)
  point := by
    intro w q turn c a hu h
    obtain ⟨hstep, hdone, hwide⟩ := step_narrow hu.wide hu.unread.inv turn
    obtain ⟨hanswer, hrep⟩ := (ring_linearizes k).point turn hu.unread (hdone.trans h)
    rw [hstep] at hrep
    exact ⟨hanswer, hrep, hwide⟩

/--
**A ring buffer of any size is a queue.**

Let `2 ^ k` be the largest power of two that divides the size. Every sequence of calls after
`ring_buffer_setup` stays inside the buffer and answers as the queue of `2 ^ k - 1` bytes
does. So a size that is no power of two is safe, and wastes the bytes from `2 ^ k` on, which
no call reads or writes; an odd size holds nothing at all.
-/
theorem ringBuffer_anySize (k : Nat) (size : UInt32) (buffer : List UInt8)
    (hlen : buffer.length = size.toNat) (hdvd : 2 ^ k ∣ size.toNat)
    (hmax : ¬ 2 ^ (k + 1) ∣ size.toNat) (calls : List RingCall) :
    ∃ rb, ringRun (ringBufferSetup buffer size) calls
        = some ((fifoRun (.empty : Lib.BoundedFifo UInt8 (2 ^ k - 1)) calls).1, rb)
      ∧ rb.readIndex.toNat < 2 ^ k ∧ rb.writeIndex.toNat < 2 ^ k
      ∧ rb.buffer.drop (2 ^ k) = buffer.drop (2 ^ k) := by
  obtain ⟨hwide, hrep⟩ := wide_setup hlen hdvd hmax
  obtain ⟨rb, hrun, hq⟩ := queuedIn_run (q := .empty) calls ⟨⟨[], 0, hrep, rfl⟩, hwide⟩
  exact ⟨rb, hrun, hq.indices.1, hq.indices.2, hq.wide.rest⟩

/--
**A ring buffer that two sides share is a queue.**

One side writes and the other reads, a buffer of any size, and their steps come in any order.
The calls that have come to their ends, in the order in which they did, have the answers of a
queue of `2 ^ k - 1` bytes that is called in that order, where `2 ^ k` is the largest power of
two that divides the size; what is committed and not yet returned is what the queue holds, and
no step has touched a byte from `2 ^ k` on.
-/
theorem ringBuffer_linearizable (k : Nat) (size : UInt32) (buffer : List UInt8)
    (hlen : buffer.length = size.toNat) (hdvd : 2 ^ k ∣ size.toNat)
    (hmax : ¬ 2 ^ (k + 1) ∣ size.toNat) (turns : List Turn) :
    let start := RingWorld.init (ringBufferSetup buffer size)
    let ended := Lib.completed RingWorld.step RingWorld.completes start turns
    let queue := fifoRun (.empty : Lib.BoundedFifo UInt8 (2 ^ k - 1)) (ended.map Prod.fst)
    let w := start.run turns
    queue.1 = ended.map Prod.snd
      ∧ queue.2.items = w.committed.drop w.returned.length
      ∧ w.returned <+: w.committed
      ∧ w.rb.buffer.drop (2 ^ k) = buffer.drop (2 ^ k) := by
  intro start ended queue w
  obtain ⟨hwide, hrep⟩ := wide_setup hlen hdvd hmax
  have hstart : UnreadIn k (buffer.drop (2 ^ k)) start .empty :=
    ⟨unread_init hrep, hwide⟩
  obtain ⟨hanswers, hend⟩ := (anySize_linearizes k (buffer.drop (2 ^ k))).run hstart turns
  rw [fifoRun_eq] at hanswers hend
  exact ⟨hanswers, hend.unread.items, hend.unread.inv.order, hend.wide.rest⟩

end

/-- Of six bytes the first two are used, so there is room for one. -/
theorem ringBuffer_anySize_six :
    ∃ rb, ringRun (ringBufferSetup [0, 0, 9, 9, 9, 9] 6) [.write 7, .write 8, .read 0, .write 8]
        = some ([.wrote true, .wrote false, .read true 7, .wrote true], rb)
      ∧ rb.buffer.drop 2 = [9, 9, 9, 9] := by
  obtain ⟨rb, hrun, _, _, hrest⟩ := ringBuffer_anySize 1 6 [0, 0, 9, 9, 9, 9] rfl (by decide)
    (by decide) [.write 7, .write 8, .read 0, .write 8]
  exact ⟨rb, hrun, hrest⟩

/-- A read begins before the first write has ended, and takes its byte. -/
theorem ringBuffer_linearizable_six :
    let start := RingWorld.init (ringBufferSetup [0, 0, 9, 9, 9, 9] 6)
    let ended := Lib.completed RingWorld.step RingWorld.completes start
      [.producer 7, .producer 7, .consumer, .producer 7, .producer 7, .producer 8, .consumer,
        .producer 8, .consumer, .consumer]
    ended = [(.write 7, .wrote true), (.write 8, .wrote false), (.read 0, .read true 7)]
      ∧ (fifoRun (.empty : Lib.BoundedFifo UInt8 1) (ended.map Prod.fst)).1
        = ended.map Prod.snd :=
  ⟨by decide, (ringBuffer_linearizable 1 6 [0, 0, 9, 9, 9, 9] rfl (by decide) (by decide) _).1⟩

end FwCore.Proof
