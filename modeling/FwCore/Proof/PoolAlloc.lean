import FwCore.Shared.Pool
import FwCore.Lib.Links
import FwCore.Lib.Blocks

/-!
# The pool is an allocator

The free list lives in the bytes that clients write as they please once a block is
theirs. So the invariant speaks of free blocks only: they form a chain through
their own first bytes, and they and the blocks handed out are together the blocks
of the pool, each once (`PoolHolds`). A client that keeps to its blocks cannot
reach a byte of that chain, and the pool, touching the block it hands out or takes
back, cannot reach a byte of another client's.
-/

namespace FwCore.Proof

open FwCore Lib

/-- What the callers of the pool's functions see to. -/
structure PoolValid (ps : Nat) (c : PoolConfig) : Prop where
  /-- The pool is not at address zero. -/
  start_pos : 0 < c.poolStart
  /-- A pointer has at least one byte. -/
  ptr_pos : 0 < ps
  /-- A block has room for a link. -/
  link_fits : ps ≤ c.blockSize.toNat
  /-- The offset of a block does not overflow. -/
  product : c.blockCount.toNat * c.blockSize.toNat < 2 ^ 32
  /-- The pool lies within the address space. -/
  in_space : c.poolEnd ≤ 256 ^ ps

/-- The addresses `pool_start + i * block_size` with `i < block_count`. -/
def poolBlocks (c : PoolConfig) : List Nat :=
  blocks c.poolStart c.blockSize.toNat c.blockCount.toNat

/-- The free list runs through `free`, and each block is in `free` or `owned`, not in both. -/
structure PoolHolds (ps : Nat) (c : PoolConfig) (m : Mem) (freelist : Nat)
    (free owned : List Nat) : Prop where
  /-- The links lead from the free list's head through `free` to null. -/
  chain : Chain (blockNext ps m) 0 freelist free
  /-- Free and owned blocks are all the blocks, each once. -/
  perm : (free ++ owned).Perm (poolBlocks c)

section

variable {ps : Nat} {c : PoolConfig} {m m' : Mem} {freelist : Nat} {free owned : List Nat}

theorem poolBlock_pos (hc : PoolValid ps c) : 0 < c.blockSize.toNat :=
  Nat.lt_of_lt_of_le hc.ptr_pos hc.link_fits

/-- The blocks as places for links. -/
def poolNodes (hc : PoolValid ps c) : NodeSpace ps where
  isNode a := a ∈ poolBlocks c
  nonnull a ha := by
    have := (block_inside ha).1
    have := hc.start_pos
    omega
  fits a ha := by
    have := (block_inside ha).2
    have := poolBlock_pos hc
    have := hc.in_space
    rw [PoolConfig.poolEnd] at this
    omega
  apart a b ha hb hne := (blocks_apart ha hb hne).mono hc.link_fits

/-! ## What the invariant says -/

theorem PoolHolds.mem_blocks (h : PoolHolds ps c m freelist free owned) {b : Nat}
    (hb : b ∈ free ∨ b ∈ owned) : b ∈ poolBlocks c :=
  h.perm.mem_iff.mp (List.mem_append.mpr hb)

theorem PoolHolds.nodup (hc : PoolValid ps c) (h : PoolHolds ps c m freelist free owned) :
    (free ++ owned).Nodup :=
  h.perm.nodup_iff.mpr (blocks_nodup (poolBlock_pos hc))

theorem PoolHolds.count (h : PoolHolds ps c m freelist free owned) :
    free.length + owned.length = c.blockCount.toNat := by
  rw [← List.length_append, h.perm.length_eq, poolBlocks, blocks_length]

theorem PoolHolds.free_not_owned (hc : PoolValid ps c)
    (h : PoolHolds ps c m freelist free owned) {b : Nat} (hb : b ∈ free) : b ∉ owned := by
  have hnd := h.nodup hc
  rw [List.nodup_append] at hnd
  exact fun ho => hnd.2.2 b hb b ho rfl

/-- Two blocks, one free and one owned, do not overlap. -/
theorem PoolHolds.apart (hc : PoolValid ps c) (h : PoolHolds ps c m freelist free owned)
    {a b : Nat} (ha : a ∈ free) (hb : b ∈ owned) : Apart c.blockSize.toNat a b :=
  blocks_apart (h.mem_blocks (Or.inl ha)) (h.mem_blocks (Or.inr hb))
    (fun he => h.free_not_owned hc ha (he ▸ hb))

/-- The pool does not care about bytes that are no free block's link. -/
theorem PoolHolds.frame (h : PoolHolds ps c m freelist free owned)
    (hm : ∀ a ∈ free, ∀ x, a ≤ x → x < a + ps → m' x = m x) :
    PoolHolds ps c m' freelist free owned :=
  ⟨chain_frame h.chain hm, h.perm⟩

/-- Writing into an owned block, or outside the pool, leaves the pool as it is. -/
theorem PoolHolds.frame_off (hc : PoolValid ps c) (h : PoolHolds ps c m freelist free owned)
    {a n : Nat} (ha : (∃ b ∈ owned, b ≤ a ∧ a + n ≤ b + c.blockSize.toNat)
      ∨ a + n ≤ c.poolStart ∨ c.poolEnd ≤ a) (hm : AgreeOff m m' a n) :
    PoolHolds ps c m' freelist free owned := by
  refine h.frame (fun f hf x h1 h2 => hm x ?_)
  have hlink := hc.link_fits
  rcases ha with ⟨b, hb, hlo, hhi⟩ | hout
  · -- inside an owned block, which no free block overlaps
    rcases h.apart hc hf hb with hap | hap
    · omega
    · omega
  · -- outside the pool, where no free block is
    have hin := block_inside (h.mem_blocks (Or.inl hf))
    rw [PoolConfig.poolEnd] at hout
    omega

/-! ## Setting up -/

/-- Memory and the free list after `n` passes of the loop of `pool_InitGeneric`. -/
def poolInitPasses (ps : Nat) (c : PoolConfig) (m : Mem) (n : Nat) : Mem × Nat :=
  (List.range n).foldl (poolInitStep ps c.poolStart c.blockSize) (m, 0)

theorem poolInitPasses_succ (hc : PoolValid ps c) (m : Mem) {n : Nat}
    (hn : n < c.blockCount.toNat) :
    poolInitPasses ps c m (n + 1)
      = (setBlockNext ps (poolInitPasses ps c m n).1 (c.poolStart + n * c.blockSize.toNat)
          (poolInitPasses ps c m n).2, c.poolStart + n * c.blockSize.toNat) := by
  -- `i*block_size` does not wrap, so the loop is at block `n`
  have hblock : (UInt32.ofNat n * c.blockSize).toNat = n * c.blockSize.toNat := by
    have hle : n * c.blockSize.toNat ≤ c.blockCount.toNat * c.blockSize.toNat :=
      Nat.mul_le_mul_right _ (by omega)
    have hn32 : n < 2 ^ 32 := Nat.lt_trans hn c.blockCount.toNat_lt
    have := hc.product
    rw [UInt32.toNat_mul, UInt32.toNat_ofNat', Nat.mod_eq_of_lt hn32, Nat.mod_eq_of_lt (by omega)]
  rw [poolInitPasses, List.range_succ, List.foldl_append, List.foldl_cons, List.foldl_nil,
    poolInitStep, hblock]
  rfl

/-- The blocks passed so far form a chain, the last one first. -/
theorem poolInitPasses_chain (hc : PoolValid ps c) (m : Mem) : ∀ n,
    n ≤ c.blockCount.toNat →
    Chain (blockNext ps (poolInitPasses ps c m n).1) 0 (poolInitPasses ps c m n).2
      (blocks c.poolStart c.blockSize.toNat n).reverse
  | 0, _ => chain_nil
  | n + 1, hn => by
      have ih := poolInitPasses_chain hc m n (by omega)
      have hmem : ∀ a ∈ blocks c.poolStart c.blockSize.toNat n, a ∈ poolBlocks c := by
        intro a ha
        obtain ⟨i, hi, he⟩ := Lib.mem_blocks.mp ha
        exact Lib.mem_blocks.mpr ⟨i, by omega, he⟩
      rw [poolInitPasses_succ hc m hn, blocks_succ, List.reverse_append, List.reverse_singleton]
      refine (poolNodes hc).chain_push ih (fun a ha => hmem a (List.mem_reverse.mp ha))
        (Lib.mem_blocks.mpr ⟨n, by omega, rfl⟩) ?_
      -- block `n` is not among the first `n`
      intro ha
      have := (block_inside (List.mem_reverse.mp ha)).2
      have := poolBlock_pos hc
      omega

/-- Setting up writes inside the pool only. -/
theorem poolInitPasses_agreeOff (hc : PoolValid ps c) (m : Mem) : ∀ n,
    n ≤ c.blockCount.toNat →
    AgreeOff m (poolInitPasses ps c m n).1 c.poolStart (c.blockCount.toNat * c.blockSize.toNat)
  | 0, _ => AgreeOff.refl m _ _
  | n + 1, hn => by
      have ih := poolInitPasses_agreeOff hc m n (by omega)
      have hin := block_inside (Lib.mem_blocks.mpr
        ⟨n, hn, rfl⟩ : c.poolStart + n * c.blockSize.toNat ∈ poolBlocks c)
      have hlink := hc.link_fits
      rw [poolInitPasses_succ hc m hn]
      exact ih.trans ((store_agreeOff _ _ ps _).mono hin.1 (by omega))

theorem poolInit_holds (hc : PoolValid ps c) (m : Mem) :
    PoolHolds ps c (poolInitGeneric ps m c.poolStart c.blockCount c.blockSize).1
      (poolInitGeneric ps m c.poolStart c.blockCount c.blockSize).2 (poolBlocks c).reverse [] where
  chain := poolInitPasses_chain hc m c.blockCount.toNat (Nat.le_refl _)
  perm := by
    rw [List.append_nil]
    exact List.reverse_perm _

/-! ## Handing out and taking back -/

/-- With every block handed out, `pool_AllocateGeneric` returns null and changes nothing. -/
theorem poolAllocate_none (h : PoolHolds ps c m freelist [] owned) :
    poolAllocateGeneric ps m freelist c.blockSize = (0, m, freelist) := by
  rw [poolAllocateGeneric, if_pos h.chain.eq_null]

/-- Taking the first free block off the list. -/
theorem PoolHolds.take {b : Nat} (h : PoolHolds ps c m freelist (b :: free) owned) :
    freelist = b ∧ b ≠ 0 ∧ PoolHolds ps c m (blockNext ps m b) free (b :: owned) := by
  obtain ⟨hfirst, hne, ht⟩ := h.chain.uncons
  exact ⟨hfirst, hne, ht, List.perm_middle.trans h.perm⟩

/-- With a free block left, `pool_AllocateGeneric` hands it out, filled with zeros. -/
theorem poolAllocate_some (hc : PoolValid ps c) {b : Nat}
    (h : PoolHolds ps c m freelist (b :: free) owned) :
    poolAllocateGeneric ps m freelist c.blockSize
        = (b, m.fill b c.blockSize.toNat 0, blockNext ps m b)
      ∧ b ≠ 0
      ∧ PoolHolds ps c (m.fill b c.blockSize.toNat 0) (blockNext ps m b) free (b :: owned) := by
  obtain ⟨hfirst, hne, ht⟩ := h.take
  refine ⟨by rw [poolAllocateGeneric, hfirst, if_neg hne], hne, ?_⟩
  exact ht.frame_off hc (Or.inl ⟨b, by simp, Nat.le_refl _, Nat.le_refl _⟩) (fill_agreeOff m b _ 0)

theorem isFromPool_iff (hc : PoolValid ps c) (ptr : Nat) :
    c.isFromPool ptr = true ↔ c.poolStart ≤ ptr ∧ ptr < c.poolEnd := by
  have := hc.start_pos
  rw [PoolConfig.isFromPool, poolIsFromPoolGeneric]
  split
  · -- null, which is below the pool
    refine ⟨fun h => absurd h (by simp), fun h => ?_⟩
    omega
  · split
    · rename_i h
      exact ⟨fun _ => h, fun _ => rfl⟩
    · rename_i h
      exact ⟨fun h' => absurd h' (by simp), fun h' => absurd h' h⟩

/-- Freeing null, or an address outside the pool, does nothing. -/
theorem poolFree_outside (hc : PoolValid ps c) {ptr : Nat}
    (hp : ptr = 0 ∨ ptr < c.poolStart ∨ c.poolEnd ≤ ptr) :
    poolFreeGeneric ps m ptr freelist c.isFromPool = (m, freelist) := by
  rw [poolFreeGeneric]
  by_cases h0 : ptr = 0
  · rw [if_pos h0]
  · have hout : c.isFromPool ptr = false := by
      rw [Bool.eq_false_iff]
      intro hin
      have := (isFromPool_iff hc ptr).mp hin
      omega
    rw [if_neg h0, if_pos hout]

/-- Freeing an owned block puts it in front of the free list. -/
theorem poolFree_owned (hc : PoolValid ps c) (h : PoolHolds ps c m freelist free owned)
    {ptr : Nat} (hp : ptr ∈ owned) :
    poolFreeGeneric ps m ptr freelist c.isFromPool = (setBlockNext ps m ptr freelist, ptr)
      ∧ PoolHolds ps c (setBlockNext ps m ptr freelist) ptr (ptr :: free) (owned.erase ptr) := by
  have hblock := h.mem_blocks (Or.inr hp)
  have hin : c.isFromPool ptr = true := by
    have hb := block_inside hblock
    have := poolBlock_pos hc
    rw [isFromPool_iff hc, PoolConfig.poolEnd]
    omega
  refine ⟨?_, ?_, ?_⟩
  · rw [poolFreeGeneric, if_neg ((poolNodes hc).nonnull ptr hblock), if_neg (by rw [hin]; simp)]
  · refine (poolNodes hc).chain_push h.chain (fun a ha => h.mem_blocks (Or.inl ha)) hblock ?_
    exact fun hf => h.free_not_owned hc hf hp
  · have hperm : (free ++ ptr :: owned.erase ptr).Perm (poolBlocks c) :=
      (List.Perm.append_left free (List.perm_cons_erase hp).symm).trans h.perm
    exact List.perm_middle.symm.trans hperm

/-- `pool_GetFreeBlockCountGeneric` counts the chain. -/
theorem poolCountLoop_eq : ∀ (free : List Nat) {cur fuel : Nat} {n : UInt32},
    Chain (blockNext ps m) 0 cur free → free.length < fuel →
    poolCountLoop ps fuel m cur n = some (n + UInt32.ofNat free.length)
  | [], cur, fuel, n, h, hf => by
      cases fuel with
      | zero => exact absurd hf (by simp)
      | succ fuel =>
          rw [poolCountLoop, if_neg (by rw [h.eq_null]; simp)]
          simp
  | b :: free, cur, fuel, n, h, hf => by
      obtain ⟨hfirst, hne, ht⟩ := h.uncons
      cases fuel with
      | zero => exact absurd hf (by simp)
      | succ fuel =>
          have ih := poolCountLoop_eq free (n := n + 1) ht (Nat.lt_of_succ_lt_succ hf)
          rw [poolCountLoop, hfirst, if_pos hne, ih, List.length_cons, UInt32.ofNat_add]
          congr 1
          grind

/-- The count and the owned blocks add up to `block_count`. -/
theorem poolGetFreeBlockCount_spec (h : PoolHolds ps c m freelist free owned) {fuel : Nat}
    (hf : c.blockCount.toNat < fuel) :
    ∃ n, poolGetFreeBlockCountGeneric ps fuel m freelist = some n
      ∧ n.toNat + owned.length = c.blockCount.toNat := by
  have hcount := h.count
  have hlt := c.blockCount.toNat_lt
  refine ⟨UInt32.ofNat free.length, ?_, ?_⟩
  · rw [poolGetFreeBlockCountGeneric, poolCountLoop_eq free h.chain (by omega), UInt32.zero_add]
  · rw [UInt32.toNat_ofNat', Nat.mod_eq_of_lt (by omega), hcount]

/-! ## Any sequence of operations -/

/-- What an operation asks of the client that performs it. -/
def PoolAllowed (c : PoolConfig) (w : PoolWorld) : PoolOp → Prop
  | .allocate => True
  | .free ptr => ptr = 0 ∨ (ptr < c.poolStart ∨ c.poolEnd ≤ ptr) ∨ ptr ∈ w.owned
  | .clientWrite addr _ =>
    (∃ b ∈ w.owned, b ≤ addr ∧ addr < b + c.blockSize.toNat)
      ∨ addr < c.poolStart ∨ c.poolEnd ≤ addr

/-- What a sequence of operations asks of the clients. -/
def PoolAllowedRun (ps : Nat) (c : PoolConfig) (w : PoolWorld) : List PoolOp → Prop
  | [] => True
  | op :: ops => PoolAllowed c w op ∧ PoolAllowedRun ps c (poolOp ps c w op) ops

/-- One operation keeps the pool's invariant. -/
theorem poolOp_holds (hc : PoolValid ps c) {w : PoolWorld}
    (h : PoolHolds ps c w.mem w.freelist free w.owned) {op : PoolOp} (hop : PoolAllowed c w op) :
    ∃ free', PoolHolds ps c (poolOp ps c w op).mem (poolOp ps c w op).freelist free'
      (poolOp ps c w op).owned := by
  cases op with
  | allocate =>
      cases free with
      | nil =>
          refine ⟨[], ?_⟩
          rw [poolOp, poolAllocate_none h]
          exact h
      | cons b free =>
          obtain ⟨heq, hne, h'⟩ := poolAllocate_some hc h
          refine ⟨free, ?_⟩
          rw [poolOp, heq]
          simp only [if_neg hne]
          exact h'
  | free ptr =>
      rcases hop with h0 | hout | hown
      · -- null: refused, and no block is there
        have hno : ptr ∉ w.owned := by
          intro hm
          exact (poolNodes hc).nonnull ptr (h.mem_blocks (Or.inr hm)) h0
        refine ⟨free, ?_⟩
        rw [poolOp, poolFree_outside hc (Or.inl h0), List.erase_of_not_mem hno]
        exact h
      · -- outside the pool: refused, and no block is there either
        have hno : ptr ∉ w.owned := by
          intro hm
          have hin := block_inside (h.mem_blocks (Or.inr hm))
          have := poolBlock_pos hc
          rw [PoolConfig.poolEnd] at hout
          omega
        refine ⟨free, ?_⟩
        rw [poolOp, poolFree_outside hc (Or.inr hout), List.erase_of_not_mem hno]
        exact h
      · -- an owned block goes back to the front of the free list
        obtain ⟨heq, h'⟩ := poolFree_owned hc h hown
        refine ⟨ptr :: free, ?_⟩
        rw [poolOp, heq]
        exact h'
  | clientWrite addr byte =>
      refine ⟨free, h.frame_off hc ?_ (fill_agreeOff w.mem addr 1 byte)⟩
      rcases hop with ⟨b, hb, hlo, hhi⟩ | hout
      · exact Or.inl ⟨b, hb, hlo, hhi⟩
      · exact Or.inr (by omega)

/-- A sequence of operations keeps the pool's invariant. -/
theorem poolRun_holds (hc : PoolValid ps c) : ∀ (ops : List PoolOp) {w : PoolWorld}
    {free : List Nat}, PoolHolds ps c w.mem w.freelist free w.owned → PoolAllowedRun ps c w ops →
    ∃ free', PoolHolds ps c (poolRun ps c w ops).mem (poolRun ps c w ops).freelist free'
      (poolRun ps c w ops).owned
  | [], w, free, h, _ => ⟨free, h⟩
  | op :: ops, w, free, h, hal => by
      obtain ⟨free₁, h₁⟩ := poolOp_holds hc h hal.1
      exact poolRun_holds hc ops h₁ hal.2

/-- An allocation or a release changes no byte of a block that stays allocated. -/
theorem poolOp_keeps (hc : PoolValid ps c) {w : PoolWorld}
    (h : PoolHolds ps c w.mem w.freelist free w.owned) {op : PoolOp} (hop : PoolAllowed c w op)
    (hcall : op = .allocate ∨ ∃ ptr, op = .free ptr) {b : Nat} (hb : b ∈ w.owned)
    (hb' : b ∈ (poolOp ps c w op).owned) {x : Nat} (hlo : b ≤ x) (hhi : x < b + c.blockSize.toNat) :
    (poolOp ps c w op).mem x = w.mem x := by
  cases op with
  | allocate =>
      cases free with
      | nil => rw [poolOp, poolAllocate_none h]
      | cons a free =>
          obtain ⟨heq, _, _⟩ := poolAllocate_some hc h
          rw [poolOp, heq]
          -- the block handed out was free, so it overlaps no owned one
          have hap := h.apart hc (List.mem_cons_self) hb
          exact fill_agreeOff w.mem a _ 0 x (by rcases hap with hap | hap <;> omega)
  | free ptr =>
      by_cases hown : ptr ∈ w.owned
      · obtain ⟨heq, h'⟩ := poolFree_owned hc h hown
        -- the block released is not the one that stays
        have hne : ptr ≠ b := by
          intro he
          have := h'.free_not_owned hc (List.mem_cons_self)
          rw [he] at this
          rw [poolOp, heq] at hb'
          exact this (he ▸ hb')
        have hap := blocks_apart (h.mem_blocks (Or.inr hown)) (h.mem_blocks (Or.inr hb)) hne
        have hlink := hc.link_fits
        rw [poolOp, heq]
        exact store_agreeOff w.mem ptr ps _ x (by rcases hap with hap | hap <;> omega)
      · -- a release that is refused
        have hout : ptr = 0 ∨ ptr < c.poolStart ∨ c.poolEnd ≤ ptr := by
          rcases hop with h0 | hout | hm
          · exact Or.inl h0
          · exact Or.inr hout
          · exact absurd hm hown
        rw [poolOp, poolFree_outside hc hout]
  | clientWrite addr byte =>
      rcases hcall with he | ⟨ptr, he⟩
      · exact absurd he (by simp)
      · exact absurd he (by simp)

/--
**The memory pool is a correct allocator.**

After `pool_InitGeneric` over any memory, and any sequence of allocations,
releases of null, of addresses outside the pool or of owned blocks, and writes of
clients into their own blocks or outside the pool: the free list is a finite chain
without duplicates that, with the owned blocks, makes up the blocks of the pool,
each once; counting it terminates with what is left of `block_count`. An
allocation returns null iff every block is owned, and otherwise a block of zeros
that nobody owns and that overlaps no owned block. And no allocation or release
changes a byte of a block that stays owned.
-/
theorem pool_allocator (ps : Nat) (c : PoolConfig) (hc : PoolValid ps c) (m : Mem)
    (ops : List PoolOp) (hal : PoolAllowedRun ps c (PoolWorld.init ps c m) ops) :
    let w := poolRun ps c (PoolWorld.init ps c m) ops
    (∃ free, Chain (blockNext ps w.mem) 0 w.freelist free
        ∧ free.Nodup
        ∧ (∀ b ∈ free, ∃ i, i < c.blockCount.toNat ∧ b = c.poolStart + i * c.blockSize.toNat)
        ∧ (free ++ w.owned).Perm (poolBlocks c) ∧ (poolBlocks c).Nodup)
      ∧ (∀ fuel, c.blockCount.toNat < fuel →
          ∃ n, poolGetFreeBlockCountGeneric ps fuel w.mem w.freelist = some n
            ∧ n.toNat + w.owned.length = c.blockCount.toNat)
      ∧ (let r := poolAllocateGeneric ps w.mem w.freelist c.blockSize
         (r.1 = 0 ↔ w.owned.length = c.blockCount.toNat)
           ∧ (r.1 ≠ 0 → r.1 ∈ poolBlocks c ∧ r.1 ∉ w.owned
               ∧ (∀ x, r.1 ≤ x → x < r.1 + c.blockSize.toNat → r.2.1 x = 0)
               ∧ ∀ b ∈ w.owned, Apart c.blockSize.toNat r.1 b))
      ∧ ∀ op, op = .allocate ∨ (∃ ptr, op = .free ptr) → PoolAllowed c w op →
          ∀ b ∈ w.owned, b ∈ (poolOp ps c w op).owned →
            ∀ x, b ≤ x → x < b + c.blockSize.toNat → (poolOp ps c w op).mem x = w.mem x := by
  intro w
  obtain ⟨free, h⟩ := poolRun_holds hc ops (poolInit_holds hc m) hal
  have hcount : free.length + w.owned.length = c.blockCount.toNat := h.count
  refine ⟨⟨free, h.chain, h.chain.nodup, ?_, h.perm, blocks_nodup (poolBlock_pos hc)⟩,
    fun fuel hf => poolGetFreeBlockCount_spec h hf, ?_, ?_⟩
  · exact fun b hb => Lib.mem_blocks.mp (h.mem_blocks (Or.inl hb))
  · cases free with
    | nil =>
        rw [poolAllocate_none h]
        refine ⟨⟨fun _ => ?_, fun _ => rfl⟩, fun hne => absurd rfl hne⟩
        rw [List.length_nil, Nat.zero_add] at hcount
        exact hcount
    | cons b free =>
        obtain ⟨heq, hne, _⟩ := poolAllocate_some hc h
        rw [heq]
        refine ⟨⟨fun h0 => absurd h0 hne, fun hfull => ?_⟩, fun _ => ⟨?_, ?_, ?_, ?_⟩⟩
        · rw [List.length_cons] at hcount
          omega
        · exact h.mem_blocks (Or.inl List.mem_cons_self)
        · exact h.free_not_owned hc List.mem_cons_self
        · intro x hlo hhi
          show (w.mem.fill b c.blockSize.toNat 0) x = 0
          rw [Mem.fill, if_pos ⟨hlo, hhi⟩]
        · exact fun a ha => h.apart hc List.mem_cons_self ha
  · exact fun op hcall hop b hb hb' x hlo hhi => poolOp_keeps hc h hop hcall hb hb' hlo hhi

end

/-- A pool of two blocks of eight bytes. -/
def twoBlocks : PoolConfig := ⟨16, 2, 8⟩

/-- Both blocks go out; a client overwrites the link of its own, frees it, and gets it again. -/
theorem pool_allocator_two :
    let w := poolRun 4 twoBlocks (PoolWorld.init 4 twoBlocks (fun _ => 0xAB))
      [.allocate, .clientWrite 25 7, .free 3, .allocate, .free 24, .allocate]
    ∃ free, (free ++ w.owned).Perm (poolBlocks twoBlocks) := by
  have hc : PoolValid 4 twoBlocks :=
    ⟨by decide, by decide, by decide, by decide, by decide⟩
  obtain ⟨⟨free, _, _, _, hperm, _⟩, _⟩ := pool_allocator 4 twoBlocks hc (fun _ => 0xAB)
    [.allocate, .clientWrite 25 7, .free 3, .allocate, .free 24, .allocate]
    ⟨trivial, Or.inl ⟨24, by decide, by decide⟩, Or.inr (Or.inl (Or.inl (by decide))), trivial,
      Or.inr (Or.inr (by decide)), trivial, trivial⟩
  exact ⟨free, hperm⟩

end FwCore.Proof
