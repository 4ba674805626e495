import FwCore.Proof.DeviceRegistries

/-!
# Freeing what was never handed out

`pool_Free` and `poolBig_Free` look at an address once: is it within the bytes of the
pool? They keep no record of the blocks handed out, and the block itself has none.
So null and addresses outside the pool are refused, whatever the state; any other
address becomes the head of the free list, be it the start of a block or not, free
already or not.

`poolFree_harmless_iff` says that the refusals are exactly the harmless cases among
the addresses that are no allocated block. The runs before it are those of both
pools, which share one memory.
-/

namespace FwCore.Proof

open FwCore Lib

/-! ## Two pools and their clients -/

/-- The pools, with the blocks of each that are handed out. -/
structure PoolsWorld where
  devices : Devices
  /-- Ghost: the blocks currently allocated. -/
  owned : PoolId → List Nat

/-- A call of one of the pools, or a client storing a byte. -/
inductive PoolsOp where
  | allocate (p : PoolId)
  | free (p : PoolId) (ptr : Nat)
  | clientWrite (addr : Nat) (byte : UInt8)
deriving DecidableEq, Repr

section

variable (t : Target)

/-- One operation. -/
def poolsOp (w : PoolsWorld) : PoolsOp → PoolsWorld
  | .allocate p =>
    let r := w.devices.allocate t p
    ⟨r.2, if r.1 = 0 then w.owned else Function.update w.owned p (r.1 :: w.owned p)⟩
  | .free p ptr =>
    ⟨w.devices.free t p ptr, Function.update w.owned p ((w.owned p).erase ptr)⟩
  | .clientWrite addr byte =>
    { w with devices := { w.devices with mem := w.devices.mem.fill addr 1 byte } }

/-- A sequence of operations. -/
def poolsRun (w : PoolsWorld) (ops : List PoolsOp) : PoolsWorld := ops.foldl (poolsOp t) w

/-- After `pool_Init` and `poolBig_Init`. -/
def PoolsWorld.start (m : Mem) : PoolsWorld := ⟨Devices.init t m, fun _ => []⟩

/-- The address is no byte of the pool. -/
def OutsidePool (p : PoolId) (ptr : Nat) : Prop := ptr < t.pool p ∨ (cfg t p).poolEnd ≤ ptr

/-- What an operation asks of the client that performs it. -/
def PoolsAllowed (w : PoolsWorld) : PoolsOp → Prop
  | .allocate _ => True
  | .free p ptr => (ptr = 0 ∨ OutsidePool t p ptr) ∨ ptr ∈ w.owned p
  | .clientWrite addr _ =>
    (∃ p, ∃ b ∈ w.owned p, b ≤ addr ∧ addr < b + p.blockSize.toNat) ∨ ∀ p, OutsidePool t p addr

/-- What a sequence of operations asks of the clients. -/
def PoolsAllowedRun (w : PoolsWorld) : List PoolsOp → Prop
  | [] => True
  | op :: ops => PoolsAllowed t w op ∧ PoolsAllowedRun (poolsOp t w op) ops

/-- Free and allocated blocks make up each pool, each block once, the free ones linked. -/
def PoolsHold (w : PoolsWorld) : Prop :=
  ∀ p, ∃ free,
    PoolHolds t.ptrSize (cfg t p) w.devices.mem (w.devices.freelist p) free (w.owned p)

/-- Freeing `ptr` in pool `p` does no harm. -/
structure FreeHarmless (w : PoolsWorld) (p : PoolId) (ptr : Nat) : Prop where
  /-- The free list is the one before. -/
  freeList : ∀ free,
    Chain (blockNext t.ptrSize w.devices.mem) 0 (w.devices.freelist p) free →
      Chain (blockNext t.ptrSize (w.devices.free t p ptr).mem) 0
        ((w.devices.free t p ptr).freelist p) free
  /-- So is the count of free blocks. -/
  count : ∀ fuel,
    (w.devices.free t p ptr).freeBlockCount t fuel p = w.devices.freeBlockCount t fuel p
  /-- Allocated blocks, of either pool, keep their contents. -/
  contents : ∀ q, ∀ b ∈ w.owned q, ∀ x, b ≤ x → x < b + q.blockSize.toNat →
    (w.devices.free t p ptr).mem x = w.devices.mem x
  /-- Whatever is done later, no block is lost, free twice or owned twice. -/
  later : ∀ ops, PoolsAllowedRun t ⟨w.devices.free t p ptr, w.owned⟩ ops →
    PoolsHold t (poolsRun t ⟨w.devices.free t p ptr, w.owned⟩ ops)

variable {t}

/-! ## Operations on one pool, seen from the other -/

/-- A change inside a block of one pool is nothing to the other. -/
theorem PoolsHold.other {w : PoolsWorld} (h : PoolsHold t w) {p q : PoolId} {b n : Nat} {m : Mem}
    (hb : b ∈ poolBlocks (cfg t p)) (hpq : p ≠ q) (hn : n ≤ p.blockSize.toNat)
    (hm : AgreeOff w.devices.mem m b n) :
    ∃ free, PoolHolds t.ptrSize (cfg t q) m (w.devices.freelist q) free (w.owned q) := by
  obtain ⟨free, hq⟩ := h q
  have hout := block_outside t hb hpq
  exact ⟨free, hq.frame_off (cfg_valid t q) (Or.inr (by omega)) hm⟩

/-- Null and addresses outside the pool are refused, in any state. -/
theorem free_refused (s : Devices) {p : PoolId} {ptr : Nat} (h : ptr = 0 ∨ OutsidePool t p ptr) :
    s.free t p ptr = s := by
  rw [free_eq, poolFree_outside (cfg_valid t p) h, Function.update_eq_self]

/-- No block is at null or outside the pool. -/
theorem PoolsHold.not_owned {w : PoolsWorld} (h : PoolsHold t w) {p : PoolId} {ptr : Nat}
    (hp : ptr = 0 ∨ OutsidePool t p ptr) : ptr ∉ w.owned p := by
  intro hm
  obtain ⟨free, hholds⟩ := h p
  have hin : t.pool p ≤ ptr ∧ ptr + p.blockSize.toNat ≤ (cfg t p).poolEnd :=
    block_inside (hholds.mem_blocks (Or.inr hm))
  have hpos : 0 < p.blockSize.toNat := poolBlock_pos (cfg_valid t p)
  have hstart := t.pool_pos p
  rcases hp with h0 | hout | hout
  · omega
  · omega
  · omega

/-! ## Runs -/

theorem poolsHold_start (m : Mem) : PoolsHold t (.start t m) := by
  intro p
  obtain ⟨free, h⟩ := (devices_init_ok t m).pools p
  refine ⟨free, ?_⟩
  cases p with
  | small => exact h
  | big => exact h

/-- One operation keeps both pools in order. -/
theorem poolsOp_holds {w : PoolsWorld} (h : PoolsHold t w) {op : PoolsOp}
    (hop : PoolsAllowed t w op) : PoolsHold t (poolsOp t w op) := by
  cases op with
  | allocate p =>
      obtain ⟨free, hp⟩ := h p
      cases free with
      | nil =>
          rw [poolsOp, allocate_eq, poolAllocate_none hp, Function.update_eq_self]
          exact h
      | cons b free =>
          obtain ⟨heq, hne, hp'⟩ := poolAllocate_some (cfg_valid t p) hp
          have hblock := hp.mem_blocks (Or.inl List.mem_cons_self)
          rw [poolsOp, allocate_eq, heq]
          simp only [if_neg hne]
          intro q
          by_cases hpq : p = q
          · subst hpq
            simp only [Function.update_self]
            exact ⟨free, hp'⟩
          · simp only [Function.update_of_ne (Ne.symm hpq)]
            exact h.other hblock hpq (Nat.le_refl _) (fill_agreeOff w.devices.mem b _ 0)
  | free p ptr =>
      rcases hop with hout | hown
      · -- refused, and no block is there
        rw [poolsOp, free_refused w.devices hout, List.erase_of_not_mem (h.not_owned hout),
          Function.update_eq_self]
        exact h
      · obtain ⟨free, hp⟩ := h p
        obtain ⟨heq, hp'⟩ := poolFree_owned (cfg_valid t p) hp hown
        have hblock := hp.mem_blocks (Or.inr hown)
        rw [poolsOp, free_eq, heq]
        intro q
        by_cases hpq : p = q
        · subst hpq
          simp only [Function.update_self]
          exact ⟨ptr :: free, hp'⟩
        · simp only [Function.update_of_ne (Ne.symm hpq)]
          exact h.other hblock hpq (cfg_valid t p).link_fits
            (store_agreeOff w.devices.mem ptr t.ptrSize _)
  | clientWrite addr byte =>
      intro q
      obtain ⟨free, hq⟩ := h q
      have hm := fill_agreeOff w.devices.mem addr 1 byte
      refine ⟨free, hq.frame_off (cfg_valid t q) ?_ hm⟩
      rcases hop with ⟨p, b, hb, hlo, hhi⟩ | hout
      · by_cases hpq : p = q
        · subst hpq
          exact Or.inl ⟨b, hb, hlo, hhi⟩
        · -- the client's block is in the other pool
          obtain ⟨freep, hp⟩ := h p
          have hblock := block_outside t (hp.mem_blocks (Or.inr hb)) hpq
          exact Or.inr (by omega)
      · have hq := hout q
        exact Or.inr (hq.imp (fun hlt => hlt) (fun hle => hle))

/-- A run keeps both pools in order. -/
theorem poolsRun_holds : ∀ (ops : List PoolsOp) {w : PoolsWorld}, PoolsHold t w →
    PoolsAllowedRun t w ops → PoolsHold t (poolsRun t w ops)
  | [], _, h, _ => h
  | _ :: ops, _, h, hal => poolsRun_holds ops (poolsOp_holds h hal.1) hal.2

/-! ## Freeing an address that is no allocated block -/

/-- A refused address does no harm, in any state the pools are in order. -/
theorem freeHarmless_of_refused {w : PoolsWorld} (h : PoolsHold t w) {p : PoolId} {ptr : Nat}
    (hp : ptr = 0 ∨ OutsidePool t p ptr) : FreeHarmless t w p ptr := by
  have heq := free_refused w.devices hp
  refine ⟨?_, ?_, ?_, ?_⟩
  · rw [heq]
    exact fun free hchain => hchain
  · rw [heq]
    exact fun fuel => rfl
  · rw [heq]
    exact fun q b hb x hlo hhi => rfl
  · rw [heq]
    exact fun ops hal => poolsRun_holds ops h hal

/-- **Any other address becomes the head of the free list**, which is then another list. -/
theorem not_freeHarmless {w : PoolsWorld} (h : PoolsHold t w) {p : PoolId} {ptr : Nat}
    (hp : ¬(ptr = 0 ∨ OutsidePool t p ptr)) : ¬FreeHarmless t w p ptr := by
  intro hharm
  obtain ⟨free, hholds⟩ := h p
  have hafter := hharm.freeList free hholds.chain
  have h0 : ptr ≠ 0 := fun h0 => hp (Or.inl h0)
  have hout : ¬OutsidePool t p ptr := fun ho => hp (Or.inr ho)
  have hlo : t.pool p ≤ ptr := Nat.le_of_not_lt fun hlt => hout (Or.inl hlt)
  have hhi : ptr < (cfg t p).poolEnd := Nat.lt_of_not_le fun hle => hout (Or.inr hle)
  have hin : (cfg t p).isFromPool ptr = true := (isFromPool_iff (cfg_valid t p) ptr).mpr ⟨hlo, hhi⟩
  rw [free_eq, poolFreeGeneric, if_neg h0, if_neg (by rw [hin]; simp)] at hafter
  simp only [Function.update_self] at hafter
  cases free with
  | nil => exact h0 hafter.eq_null
  | cons b free =>
      -- the list is the one before, so it was headed by `ptr`, which now links to itself
      obtain ⟨hb, _, hrest⟩ := hafter.uncons
      obtain ⟨hhead, _, _⟩ := hholds.chain.uncons
      have hfits : ptr < 256 ^ t.ptrSize := Nat.lt_of_lt_of_le hhi (cfg_valid t p).in_space
      have hself : blockNext t.ptrSize
          (setBlockNext t.ptrSize w.devices.mem ptr (w.devices.freelist p)) b = b := by
        rw [hhead, ← hb]
        exact load_store_self w.devices.mem hfits
      have hlong := Chain.cons hrest (fun hb0 => h0 (hb.trans hb0))
      rw [hself] at hrest
      have := congrArg List.length (hlong.unique hrest)
      rw [List.length_cons] at this
      omega

/--
**Freeing an address is harmless exactly if it is null or outside the pool.**

For either pool, after any run of allocations, of releases of allocated blocks, of null or of
addresses outside the pool, and of client writes, over any initial memory. What matters are the
addresses that are no allocated block; freeing one that is has an effect by design.
-/
theorem poolFree_harmless_iff (t : Target) (m : Mem) (ops : List PoolsOp)
    (hal : PoolsAllowedRun t (.start t m) ops) (p : PoolId) (ptr : Nat) :
    FreeHarmless t (poolsRun t (.start t m) ops) p ptr ↔ ptr = 0 ∨ OutsidePool t p ptr := by
  have h := poolsRun_holds ops (poolsHold_start m) hal
  constructor
  · intro hharm
    by_contra hp
    exact not_freeHarmless h hp hharm
  · exact freeHarmless_of_refused h

/-- After setting up, freeing the first block, which is free, or a byte in it, does harm. -/
theorem freedAlready_harms :
    ¬FreeHarmless arm32 (.start arm32 fun _ => 0) .small (arm32.pool .small)
      ∧ ¬FreeHarmless arm32 (.start arm32 fun _ => 0) .small (arm32.pool .small + 1) := by
  have h := poolsHold_start (t := arm32) fun _ => 0
  refine ⟨not_freeHarmless h ?_, not_freeHarmless h ?_⟩
  · unfold OutsidePool
    decide
  · unfold OutsidePool
    decide

/-- A block of each pool goes out; null and an address outside the big pool can be freed there. -/
theorem freedOutside_harmless :
    FreeHarmless arm32 (poolsRun arm32 (.start arm32 fun _ => 0) [.allocate .small, .allocate .big])
      .big 7 :=
  (poolFree_harmless_iff arm32 (fun _ => 0) [.allocate .small, .allocate .big]
    ⟨trivial, trivial, trivial⟩ .big 7).mpr (Or.inr (Or.inl (by decide)))

end

end FwCore.Proof
