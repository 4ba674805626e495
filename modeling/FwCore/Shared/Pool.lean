import FwCore.Lib.Mem

/-!
# The memory pools (`shared/pool.c`)

A pool is an array of blocks of one size. The free blocks form a linked list, the
link of a free block being its own first bytes; a block that is handed out has no
such link, its bytes are the client's.

An address is a number, `NULL` is zero, and pointers have `ps` bytes. The loop
that counts the free blocks follows links, so it takes fuel.
-/

namespace FwCore

open Lib

/-- `block->next`. -/
def blockNext (ps : Nat) (m : Mem) (block : Nat) : Nat := m.load block ps

/-- `block->next = v`. -/
def setBlockNext (ps : Nat) (m : Mem) (block v : Nat) : Mem := m.store block ps v

/-- Pass `i` of the loop of `pool_InitGeneric`, on memory and the free list. -/
def poolInitStep (ps poolStart : Nat) (blockSize : UInt32) (s : Mem × Nat) (i : Nat) : Mem × Nat :=
  let block := poolStart + (UInt32.ofNat i * blockSize).toNat
  (setBlockNext ps s.1 block s.2, block)

/-- `pool_InitGeneric`: memory and the free list afterwards. -/
def poolInitGeneric (ps : Nat) (m : Mem) (poolStart : Nat) (blockCount blockSize : UInt32) :
    Mem × Nat :=
  (List.range blockCount.toNat).foldl (poolInitStep ps poolStart blockSize) (m, 0)

/-- `pool_AllocateGeneric`: the block, memory and the free list. -/
def poolAllocateGeneric (ps : Nat) (m : Mem) (freelist : Nat) (blockSize : UInt32) :
    Nat × Mem × Nat :=
  if freelist = 0 then (0, m, freelist)
  else
    let block := freelist
    let freelist := blockNext ps m block
    (block, m.fill block blockSize.toNat 0, freelist)

/-- `pool_FreeGeneric`: memory and the free list. -/
def poolFreeGeneric (ps : Nat) (m : Mem) (ptr freelist : Nat) (isFromPool : Nat → Bool) :
    Mem × Nat :=
  if ptr = 0 then (m, freelist)
  else if isFromPool ptr = false then (m, freelist)
  else (setBlockNext ps m ptr freelist, ptr)

/-- The loop of `pool_GetFreeBlockCountGeneric`. -/
def poolCountLoop (ps : Nat) : Nat → Mem → Nat → UInt32 → Option UInt32
  | 0, _, _, _ => none
  | fuel + 1, m, current, count =>
    if current ≠ 0 then poolCountLoop ps fuel m (blockNext ps m current) (count + 1) else some count

/-- `pool_GetFreeBlockCountGeneric`. -/
def poolGetFreeBlockCountGeneric (ps fuel : Nat) (m : Mem) (freelist : Nat) : Option UInt32 :=
  poolCountLoop ps fuel m freelist 0

/-- `pool_IsFromPoolGeneric`. -/
def poolIsFromPoolGeneric (ptr poolStart poolEnd : Nat) : Bool :=
  if ptr = 0 then false
  else if poolStart ≤ ptr ∧ ptr < poolEnd then true
  else false

/-! ## The two pools of the library

Each is an array at a fixed place, `memPool.pool` or `memPoolBig.pool`, and the
`freelist` next to it.
-/

/-- `POOL_BLOCK_COUNT`. -/
def poolBlockCount : UInt32 := 64

/-- `POOL_BLOCK_SIZE`. -/
def poolBlockSize : UInt32 := 32

/-- `POOL_BIG_BLOCK_COUNT`. -/
def poolBigBlockCount : UInt32 := 16

/-- `POOL_BIG_BLOCK_SIZE`. -/
def poolBigBlockSize : UInt32 := 128

/-- `pool_Init`. -/
def poolInit (ps pool : Nat) (m : Mem) : Mem × Nat :=
  poolInitGeneric ps m pool poolBlockCount poolBlockSize

/-- `pool_Allocate`. -/
def poolAllocate (ps : Nat) (m : Mem) (freelist : Nat) : Nat × Mem × Nat :=
  poolAllocateGeneric ps m freelist poolBlockSize

/-- `pool_IsFromPool`: the end is one past the last byte of the last block. -/
def poolIsFromPool (pool ptr : Nat) : Bool :=
  poolIsFromPoolGeneric ptr pool
    (pool + (poolBlockCount - 1).toNat * poolBlockSize.toNat + poolBlockSize.toNat)

/-- `pool_Free`. -/
def poolFree (ps pool : Nat) (m : Mem) (ptr freelist : Nat) : Mem × Nat :=
  poolFreeGeneric ps m ptr freelist (poolIsFromPool pool)

/-- `pool_GetFreeBlockCount`. -/
def poolGetFreeBlockCount (ps fuel : Nat) (m : Mem) (freelist : Nat) : Option UInt32 :=
  poolGetFreeBlockCountGeneric ps fuel m freelist

/-- `poolBig_Init`. -/
def poolBigInit (ps pool : Nat) (m : Mem) : Mem × Nat :=
  poolInitGeneric ps m pool poolBigBlockCount poolBigBlockSize

/-- `poolBig_Allocate`. -/
def poolBigAllocate (ps : Nat) (m : Mem) (freelist : Nat) : Nat × Mem × Nat :=
  poolAllocateGeneric ps m freelist poolBigBlockSize

/-- `poolBig_IsFromPool`. -/
def poolBigIsFromPool (pool ptr : Nat) : Bool :=
  poolIsFromPoolGeneric ptr pool
    (pool + (poolBigBlockCount - 1).toNat * poolBigBlockSize.toNat + poolBigBlockSize.toNat)

/-- `poolBig_Free`. -/
def poolBigFree (ps pool : Nat) (m : Mem) (ptr freelist : Nat) : Mem × Nat :=
  poolFreeGeneric ps m ptr freelist (poolBigIsFromPool pool)

/-- `poolBig_GetFreeBlockCount`. -/
def poolBigGetFreeBlockCount (ps fuel : Nat) (m : Mem) (freelist : Nat) : Option UInt32 :=
  poolGetFreeBlockCountGeneric ps fuel m freelist

/-! ## A pool and its clients -/

/-- What a pool of any size is set up with. -/
structure PoolConfig where
  poolStart : Nat
  blockCount : UInt32
  blockSize : UInt32
deriving DecidableEq, Repr

/-- One past the last byte of the pool. -/
def PoolConfig.poolEnd (c : PoolConfig) : Nat :=
  c.poolStart + c.blockCount.toNat * c.blockSize.toNat

/-- `is_from_pool` for such a pool. -/
def PoolConfig.isFromPool (c : PoolConfig) (ptr : Nat) : Bool :=
  poolIsFromPoolGeneric ptr c.poolStart c.poolEnd

/-- A call of the pool, or a client storing a byte. -/
inductive PoolOp where
  | allocate
  | free (ptr : Nat)
  | clientWrite (addr : Nat) (byte : UInt8)
deriving DecidableEq, Repr

/-- Memory, the free list, and a ghost record of the blocks handed out and not freed. -/
structure PoolWorld where
  mem : Mem
  freelist : Nat
  /-- Ghost: the blocks currently allocated. -/
  owned : List Nat

/-- The world after `pool_InitGeneric`. -/
def PoolWorld.init (ps : Nat) (c : PoolConfig) (m : Mem) : PoolWorld :=
  let r := poolInitGeneric ps m c.poolStart c.blockCount c.blockSize
  ⟨r.1, r.2, []⟩

/-- One operation. -/
def poolOp (ps : Nat) (c : PoolConfig) (w : PoolWorld) : PoolOp → PoolWorld
  | .allocate =>
    let r := poolAllocateGeneric ps w.mem w.freelist c.blockSize
    ⟨r.2.1, r.2.2, if r.1 = 0 then w.owned else r.1 :: w.owned⟩
  | .free ptr =>
    let r := poolFreeGeneric ps w.mem ptr w.freelist c.isFromPool
    ⟨r.1, r.2, w.owned.erase ptr⟩
  | .clientWrite addr byte => { w with mem := w.mem.fill addr 1 byte }

/-- A sequence of operations. -/
def poolRun (ps : Nat) (c : PoolConfig) (w : PoolWorld) (ops : List PoolOp) : PoolWorld :=
  ops.foldl (poolOp ps c) w

end FwCore
