import FwCore.Lib.Linear
import FwCore.Proof.RingFifo
import FwCore.Proof.RingInterleave

/-!
# An interleaved ring buffer answers like a queue

A write that succeeds has its effect where it stores `write_index`, a read where it stores
`read_index`; a call that is refused is so by the load that finds the buffer full or empty.
Each is the last step of its call, so the calls are atomic there: in the order in which they
end they are answered as a queue answers them, whatever the interleaving.
-/

namespace FwCore.Proof

open FwCore

section

variable {k : Nat} {w : RingWorld} {q : Lib.BoundedFifo UInt8 (2 ^ k - 1)}

/-- The queue holds what is committed and not yet returned. -/
structure Unread (k : Nat) (w : RingWorld) (q : Lib.BoundedFifo UInt8 (2 ^ k - 1)) : Prop where
  inv : RingInv k w
  items : q.items = w.committed.drop w.returned.length

theorem Unread.length (h : Unread k w q) :
    q.items.length + w.returned.length = w.committed.length := by
  have hle := h.inv.rep.holds.le
  rw [h.items, List.length_drop]
  omega

theorem unread_init {rb : RingBuffer} (h : RingRep k rb [] 0) :
    Unread k (.init rb) .empty := ⟨ringInv_init h, rfl⟩

/-- A step that ends no call commits nothing and returns nothing. -/
theorem step_quiet (turn : Turn) (h : w.completes turn = none) :
    (w.step turn).committed = w.committed ∧ (w.step turn).returned = w.returned := by
  cases turn with
  | producer byte =>
      unfold RingWorld.step producerStep
      unfold RingWorld.completes at h
      cases hpc : w.writer with
      | idle => exact ⟨rfl, rfl⟩
      | loaded b wi =>
          dsimp only
          split <;> exact ⟨rfl, rfl⟩
      | storing b wi next => exact ⟨rfl, rfl⟩
      | publishing b wi next =>
          rw [hpc] at h
          cases h
  | consumer =>
      unfold RingWorld.step consumerStep
      unfold RingWorld.completes at h
      cases hpc : w.reader with
      | idle => exact ⟨rfl, rfl⟩
      | loaded r =>
          dsimp only
          split <;> exact ⟨rfl, rfl⟩
      | fetching r => exact ⟨rfl, rfl⟩
      | releasing r byte =>
          rw [hpc] at h
          cases h

/-- The last step of a write. -/
theorem write_point (hu : Unread k w q) (byte : UInt8) {c : RingCall} {a : RingAnswer}
    (h : w.completes (.producer byte) = some (c, a)) :
    (fifoCall q c).1 = a ∧ Unread k (w.step (.producer byte)) (fifoCall q c).2 := by
  have hinv := ringInv_step hu.inv (.producer byte)
  have hlen := hu.length
  have hok := hu.inv.writer
  unfold WriterOk at hok
  unfold RingWorld.completes at h
  unfold RingWorld.step producerStep at hinv ⊢
  cases hpc : w.writer with
  | idle =>
      rw [hpc] at h
      cases h
  | loaded b wi =>
      rw [hpc] at h hok hinv
      dsimp only at h hok hinv ⊢
      subst hok
      split at h
      · rename_i hfull
        obtain ⟨rfl, rfl⟩ := Prod.mk.inj (Option.some.inj h)
        rw [if_pos hfull] at hinv ⊢
        have hlap := (hu.inv.rep.full_iff (hu.inv.rep.next hu.inv.rep.write)).mp hfull
        have hq := Lib.BoundedFifo.write_full (q := q) (by omega) b
        rw [fifoCall, hq]
        exact ⟨rfl, hinv, hu.items⟩
      · cases h
  | storing b wi next =>
      rw [hpc] at h
      cases h
  | publishing b wi next =>
      rw [hpc] at h hok hinv
      dsimp only at h hok hinv ⊢
      obtain ⟨rfl, rfl⟩ := Prod.mk.inj (Option.some.inj h)
      obtain ⟨_, _, hroom, _⟩ := hok
      obtain ⟨hwrote, hitems⟩ := Lib.BoundedFifo.write_room (q := q) (by omega) b
      refine ⟨by rw [fifoCall, hwrote], hinv, ?_⟩
      show (q.write b).2.items = (w.committed ++ [b]).drop w.returned.length
      rw [hitems, hu.items, List.drop_append_of_le_length hu.inv.rep.holds.le]

/-- The last step of a read. -/
theorem read_point (hu : Unread k w q) {c : RingCall} {a : RingAnswer}
    (h : w.completes .consumer = some (c, a)) :
    (fifoCall q c).1 = a ∧ Unread k (w.step .consumer) (fifoCall q c).2 := by
  have hinv := ringInv_step hu.inv .consumer
  have hok := hu.inv.reader
  unfold ReaderOk at hok
  unfold RingWorld.completes at h
  unfold RingWorld.step consumerStep at hinv ⊢
  cases hpc : w.reader with
  | idle =>
      rw [hpc] at h
      cases h
  | loaded r =>
      rw [hpc] at h hok hinv
      dsimp only at h hok hinv ⊢
      subst hok
      split at h
      · rename_i hempty
        obtain ⟨rfl, rfl⟩ := Prod.mk.inj (Option.some.inj h)
        rw [if_pos hempty] at hinv ⊢
        have hlevel := hu.inv.rep.empty_iff.mp hempty
        have hnil : q.items = [] := by rw [hu.items, hlevel, List.drop_length]
        have hq := Lib.BoundedFifo.read_nil hnil
        rw [fifoCall, hq]
        exact ⟨rfl, hinv, hu.items⟩
      · cases h
  | fetching r =>
      rw [hpc] at h
      cases h
  | releasing r byte =>
      rw [hpc] at h hok hinv
      dsimp only at h hok hinv ⊢
      obtain ⟨rfl, rfl⟩ := Prod.mk.inj (Option.some.inj h)
      obtain ⟨hlt, hget⟩ := List.getElem?_eq_some_iff.mp hok.2
      have hcons : q.items = byte :: w.committed.drop (w.returned.length + 1) := by
        rw [hu.items, List.drop_eq_getElem_cons hlt, hget]
      obtain ⟨hread, hitems⟩ := Lib.BoundedFifo.read_cons hcons
      refine ⟨by rw [fifoCall, hread]; rfl, hinv, ?_⟩
      show q.read.2.items = w.committed.drop (w.returned ++ [byte]).length
      rw [hitems, List.length_append]
      rfl

/-- **The steps of the two sides stand for calls of the queue.** -/
theorem ring_linearizes (k : Nat) :
    Lib.Linearizes RingWorld.step RingWorld.completes fifoCall (Unread k) where
  quiet := by
    intro w q turn hu h
    obtain ⟨hcommitted, hreturned⟩ := step_quiet turn h
    refine ⟨ringInv_step hu.inv turn, ?_⟩
    rw [hcommitted, hreturned]
    exact hu.items
  point := by
    intro w q turn c a hu h
    cases turn with
    | producer byte => exact write_point hu byte h
    | consumer => exact read_point hu h

/-- The calls of `fifoRun` are calls of the object. -/
theorem fifoRun_eq (calls : List RingCall) : Lib.callAll fifoCall q calls = fifoRun q calls := by
  induction calls generalizing q with
  | nil => rfl
  | cons c calls ih =>
      rw [Lib.callAll, fifoRun, ih]

end

end FwCore.Proof
