import FwCore.Proof.RingRep
import FwCore.Lib.BoundedFifo

/-!
# Whole calls refine a bounded queue

With no interruption a call runs to its end, and the buffer is a queue of one
byte less than its size. The simulation is `Queued`: some log and some position
represent the code's state, and the abstract queue is the log from there on.
-/

namespace FwCore.Proof

open FwCore

/-- One call on the abstract queue. -/
def fifoCall {cap : Nat} (q : Lib.BoundedFifo UInt8 cap) :
    RingCall → RingAnswer × Lib.BoundedFifo UInt8 cap
  | .write byte => (.wrote (q.write byte).1, (q.write byte).2)
  | .read byte => (.read q.read.1.isSome (q.read.1.getD byte), q.read.2)
  | .empty => (.empty q.isEmpty, q)

/-- A sequence of calls on the abstract queue. -/
def fifoRun {cap : Nat} (q : Lib.BoundedFifo UInt8 cap) :
    List RingCall → List RingAnswer × Lib.BoundedFifo UInt8 cap
  | [] => ([], q)
  | c :: cs =>
    let r := fifoCall q c
    let rest := fifoRun r.2 cs
    (r.1 :: rest.1, rest.2)

/-- Whether a call was turned down. -/
def refused : RingAnswer → Prop
  | .wrote ok => ok = false
  | .read ok _ => ok = false
  | .empty _ => False

/-- The code's buffer stands for the abstract queue. -/
def Queued (k : Nat) (rb : RingBuffer) (q : Lib.BoundedFifo UInt8 (2 ^ k - 1)) : Prop :=
  ∃ log lo, RingRep k rb log lo ∧ q.items = log.drop lo

/-- **One call answers as the queue does**, and a refused one leaves everything alone. -/
theorem ringCall_refines {k : Nat} {rb : RingBuffer} {q : Lib.BoundedFifo UInt8 (2 ^ k - 1)}
    (h : Queued k rb q) (c : RingCall) :
    ∃ rb', ringCall rb c = some ((fifoCall q c).1, rb') ∧ Queued k rb' (fifoCall q c).2
      ∧ (refused (fifoCall q c).1 → rb' = rb) := by
  obtain ⟨log, lo, hrep, hq⟩ := h
  have hle := hrep.holds.le
  have hlen : q.items.length = log.length - lo := by rw [hq, List.length_drop]
  cases c with
  | write byte =>
      rcases hrep.write_cases byte with ⟨hfull, hw⟩ | ⟨hroom, rb', hw, hrep'⟩
      · -- a lap less one is in use, and the queue is full
        have hq' := Lib.BoundedFifo.write_full (q := q) (by omega) byte
        refine ⟨rb, ?_, ⟨log, lo, hrep, ?_⟩, fun _ => rfl⟩
        · rw [ringCall, hw, fifoCall, hq']; rfl
        · rw [fifoCall, hq']; exact hq
      · -- the log grows at its end, and the queue with it
        obtain ⟨h1, h2⟩ := Lib.BoundedFifo.write_room (q := q) (by omega) byte
        refine ⟨rb', ?_, ⟨log ++ [byte], lo, hrep', ?_⟩, fun hr => ?_⟩
        · rw [ringCall, hw, fifoCall, h1]; rfl
        · rw [List.drop_append_of_le_length hle, ← hq]; exact h2
        · exact absurd (h1.symm.trans hr) (by simp)
  | read byte =>
      rcases hrep.read_cases byte with ⟨hempty, hr⟩ | ⟨x, rb', hx, hr, hrep'⟩
      · have hnil : q.items = [] := by rw [hq, hempty, List.drop_length]
        have hq' := Lib.BoundedFifo.read_nil hnil
        refine ⟨rb, ?_, ⟨log, lo, hrep, ?_⟩, fun _ => rfl⟩
        · rw [ringCall, hr, fifoCall, hq']; rfl
        · rw [fifoCall, hq']; exact hq
      · -- the oldest unread entry is the front of the queue
        obtain ⟨hlt, hget⟩ := List.getElem?_eq_some_iff.mp hx
        have hcons : q.items = x :: log.drop (lo + 1) := by
          rw [hq, List.drop_eq_getElem_cons hlt, hget]
        obtain ⟨h1, h2⟩ := Lib.BoundedFifo.read_cons hcons
        refine ⟨rb', ?_, ⟨log, lo + 1, hrep', h2⟩, fun hr => ?_⟩
        · rw [ringCall, hr, fifoCall, h1]; rfl
        · rw [fifoCall, h1] at hr; exact absurd hr (by simp [refused])
  | empty =>
      refine ⟨rb, ?_, ⟨log, lo, hrep, hq⟩, fun _ => rfl⟩
      have hiff := hrep.empty_iff
      have : ringBufferEmpty rb = q.isEmpty := by
        rw [ringBufferEmpty, Lib.BoundedFifo.isEmpty, Bool.eq_iff_iff, beq_iff_eq,
          List.isEmpty_iff, hiff, hq, List.drop_eq_nil_iff]
        omega
      rw [ringCall, fifoCall, this]

/-- A sequence of calls answers as the queue does. -/
theorem ringRun_refines {k : Nat} : ∀ (calls : List RingCall) {rb : RingBuffer}
    {q : Lib.BoundedFifo UInt8 (2 ^ k - 1)}, Queued k rb q →
    ∃ rb', ringRun rb calls = some ((fifoRun q calls).1, rb') ∧ Queued k rb' (fifoRun q calls).2
  | [], rb, q, h => ⟨rb, rfl, h⟩
  | c :: cs, rb, q, h => by
      obtain ⟨rb₁, hcall, h₁, _⟩ := ringCall_refines h c
      obtain ⟨rb₂, hrun, h₂⟩ := ringRun_refines cs h₁
      refine ⟨rb₂, ?_, h₂⟩
      rw [ringRun, hcall]
      simp only [Option.bind_eq_bind, Option.bind_some, hrun]
      rfl

/--
**The ring buffer refines a bounded queue.**

Over a buffer of `2 ^ k` bytes, every sequence of calls after `ring_buffer_setup`
runs without leaving the buffer and answers as the queue of `2 ^ k - 1` bytes
does. Wherever it has led, the indices are inside the buffer, and a further call
that is refused changes neither them nor a byte of the buffer.
-/
theorem ringBuffer_refines_fifo (k : Nat) (size : UInt32) (buffer : List UInt8)
    (hsize : size.toNat = 2 ^ k) (hlen : buffer.length = 2 ^ k) (calls : List RingCall) :
    let queue := fifoRun (.empty : Lib.BoundedFifo UInt8 (2 ^ k - 1)) calls
    ∃ rb, ringRun (ringBufferSetup buffer size) calls = some (queue.1, rb)
      ∧ rb.readIndex.toNat < 2 ^ k ∧ rb.writeIndex.toNat < 2 ^ k ∧ rb.buffer.length = 2 ^ k
      ∧ ∀ c, ∃ rb', ringCall rb c = some ((fifoCall queue.2 c).1, rb')
          ∧ (refused (fifoCall queue.2 c).1 → rb' = rb) := by
  intro queue
  have hinit : Queued k (ringBufferSetup buffer size) .empty :=
    ⟨[], 0, ringRep_setup hsize hlen, rfl⟩
  obtain ⟨rb, hrun, hq⟩ := ringRun_refines calls hinit
  obtain ⟨log, lo, hrep, _⟩ := id hq
  refine ⟨rb, hrun, hrep.read_lt, hrep.write_lt, hrep.size, fun c => ?_⟩
  obtain ⟨rb', hcall, _, href⟩ := ringCall_refines hq c
  exact ⟨rb', hcall, href⟩

/-- A buffer of two bytes holds one: the second write is refused. -/
theorem ringBuffer_refines_fifo_two :
    ∃ rb, ringRun (ringBufferSetup [0, 0] 2) [.write 7, .write 8, .empty, .read 0, .read 5]
        = some ([.wrote true, .wrote false, .empty false, .read true 7, .read false 5], rb) := by
  obtain ⟨rb, hrun, _⟩ := ringBuffer_refines_fifo 1 2 [0, 0] (by decide) rfl
    [.write 7, .write 8, .empty, .read 0, .read 5]
  exact ⟨rb, hrun⟩

end FwCore.Proof
