import FwCore.Bsp.DeviceRun
import FwCore.Proof.PoolAlloc
import FwCore.Proof.SlistSpec
import FwCore.Lib.CyclicSearch

/-!
# Pools, lists and uuids stay consistent

The invariant of all device code is `DevicesOk`. For each pool, free blocks and
blocks in use make up the pool, a block in use being a live device of one kind or
`hand`, the one block a function may hold between taking it from the pool and
linking it, or between unlinking it and giving it back. For each kind, the list
goes through the `node`s of its live devices, and no two of them have one uuid.

What may change without disturbing it is said once, in `DevicesOk.frame`: anything
but free blocks, and the `node` and `uuid` fields of live devices. The steps the
functions are made of then each move one block: pool to hand, hand to list, list
to hand, hand to pool.
-/

namespace FwCore.Proof

open FwCore Lib

section

variable (t : Target)

/-! ## The pools of a target -/

/-- What pool `p` is set up with. -/
def cfg (p : PoolId) : PoolConfig := p.config (t.pool p)

theorem cfg_valid (p : PoolId) : PoolValid t.ptrSize (cfg t p) where
  start_pos := t.pool_pos p
  ptr_pos := t.ptr_pos
  link_fits := by
    -- a device struct has room for its node
    cases p with
    | small =>
        have h1 := t.inside .led .node (by decide)
        have h2 := t.fits_block .led
        exact Nat.le_trans (Nat.le_trans (Nat.le_add_left _ _) h1) h2
    | big =>
        have h1 := t.inside .button .node (by decide)
        have h2 := t.fits_block .button
        exact Nat.le_trans (Nat.le_trans (Nat.le_add_left _ _) h1) h2
  product := by
    cases p with
    | small =>
        show poolBlockCount.toNat * poolBlockSize.toNat < 2 ^ 32
        decide
    | big =>
        show poolBigBlockCount.toNat * poolBigBlockSize.toNat < 2 ^ 32
        decide
  in_space := t.pool_in_space p

/-- `pool_IsFromPool` computes the pool's end another way, to the same effect. -/
theorem poolIsFromPool_eq : poolIsFromPool (t.pool .small) = (cfg t .small).isFromPool := by
  have hlen : (poolBlockCount - 1).toNat * poolBlockSize.toNat + poolBlockSize.toNat
      = poolBlockCount.toNat * poolBlockSize.toNat := by decide
  funext ptr
  rw [poolIsFromPool, Nat.add_assoc, hlen]
  rfl

theorem poolBigIsFromPool_eq : poolBigIsFromPool (t.pool .big) = (cfg t .big).isFromPool := by
  have hlen : (poolBigBlockCount - 1).toNat * poolBigBlockSize.toNat + poolBigBlockSize.toNat
      = poolBigBlockCount.toNat * poolBigBlockSize.toNat := by decide
  funext ptr
  rw [poolBigIsFromPool, Nat.add_assoc, hlen]
  rfl

/-- A block lies outside the other pool. -/
theorem block_outside {p q : PoolId} {b : Nat} (hb : b ∈ poolBlocks (cfg t p)) (hpq : p ≠ q) :
    b + p.blockSize.toNat ≤ (cfg t q).poolStart ∨ (cfg t q).poolEnd ≤ b := by
  have hin : t.pool p ≤ b ∧ b + p.blockSize.toNat ≤ (cfg t p).poolEnd := block_inside hb
  have hout : (cfg t .small).poolEnd ≤ t.pool .big ∨ (cfg t .big).poolEnd ≤ t.pool .small :=
    t.pools_apart
  show _ ≤ t.pool q ∨ _
  cases p with
  | small =>
      cases q with
      | small => exact absurd rfl hpq
      | big => rcases hout with hout | hout <;> omega
  | big =>
      cases q with
      | small => rcases hout with hout | hout <;> omega
      | big => exact absurd rfl hpq

/-- Different blocks, of one pool or of both, have no byte in common. -/
theorem blocks_off {p q : PoolId} {a b x : Nat} (ha : a ∈ poolBlocks (cfg t p))
    (hb : b ∈ poolBlocks (cfg t q)) (hne : p = q → a ≠ b) (hlo : a ≤ x)
    (hhi : x < a + p.blockSize.toNat) : x < b ∨ b + q.blockSize.toNat ≤ x := by
  by_cases hpq : p = q
  · -- two blocks of one pool
    subst hpq
    have hap : Apart p.blockSize.toNat a b := blocks_apart ha hb (hne rfl)
    rcases hap with hap | hap
    · omega
    · omega
  · -- a block of each pool, and the pools do not overlap
    have hin : (cfg t q).poolStart ≤ b ∧ b + q.blockSize.toNat ≤ (cfg t q).poolEnd :=
      block_inside hb
    rcases block_outside t ha hpq with hbefore | hafter
    · exact Or.inl (by omega)
    · exact Or.inr (by omega)

/-! ## The invariant -/

/-- The live devices that are in pool `p`. -/
def liveIn (live : Registry → List Nat) : PoolId → List Nat
  | .small => live .led ++ live .ledRgb ++ live .output
  | .big => live .button

/-- The block in hand, as far as it is from pool `p`. -/
def inHand (hand : Option (PoolId × Nat)) (p : PoolId) : List Nat :=
  match hand with
  | none => []
  | some (q, b) => if q = p then [b] else []

/-- The `node` fields of devices. -/
def nodesOf (r : Registry) (devs : List Nat) : List Nat := devs.map (fun d => d + t.offset r .node)

/-- `dev->uuid`. -/
def uuidOf (r : Registry) (m : Mem) (dev : Nat) : Nat := getField t r m dev .uuid

/-- The uuids of the live devices of a kind. -/
def uuidsOf (r : Registry) (m : Mem) (devs : List Nat) : List Nat := devs.map (uuidOf t r m)

/-- Pools, lists and uuids are consistent, with at most one block in hand. -/
structure DevicesOk (s : Devices) (hand : Option (PoolId × Nat)) (live : Registry → List Nat) :
    Prop where
  /-- Free blocks, live devices and the block in hand make up each pool. -/
  pools : ∀ p, ∃ free,
    PoolHolds t.ptrSize (cfg t p) s.mem (s.freelist p) free (inHand hand p ++ liveIn live p)
  /-- Each list goes through the live devices of its kind. -/
  lists : ∀ r, SlistHolds t.ptrSize s.mem (s.list r) (nodesOf t r (live r))
  /-- Two live devices of a kind have different uuids. -/
  uuids : ∀ r, (uuidsOf t r s.mem (live r)).Nodup
  /-- The counters are in their range. -/
  counts : ∀ r, s.uuidCount r < 256 ^ r.uuidBytes

variable {t} {s : Devices} {hand : Option (PoolId × Nat)} {live : Registry → List Nat}

/-! ## Where live devices are -/

theorem mem_liveIn {r : Registry} {b : Nat} (hb : b ∈ live r) : b ∈ liveIn live r.pool := by
  cases r with
  | led => exact List.mem_append_left _ (List.mem_append_left _ hb)
  | ledRgb => exact List.mem_append_left _ (List.mem_append_right _ hb)
  | output => exact List.mem_append_right _ hb
  | button => exact hb

/-- Lists of the same pool have no device in common. -/
theorem live_disjoint {p : PoolId} (hnd : (liveIn live p).Nodup) {r r' : Registry}
    (hr : r.pool = p) (hr' : r'.pool = p) (hne : r ≠ r') {b : Nat} (hb : b ∈ live r) :
    b ∉ live r' := by
  intro hb'
  subst hr
  -- the pool's share is its lists one after another, and has no duplicates
  cases r <;> cases r' <;> simp_all [Registry.pool, liveIn, List.nodup_append] <;> grind

theorem live_length {r : Registry} : (live r).length ≤ (liveIn live r.pool).length := by
  cases r with
  | led => simp only [Registry.pool, liveIn, List.length_append]; omega
  | ledRgb => simp only [Registry.pool, liveIn, List.length_append]; omega
  | output => simp only [Registry.pool, liveIn, List.length_append]; omega
  | button => exact Nat.le_refl _

/-- A device joins its list, and so its pool's share. -/
theorem liveIn_cons (r : Registry) (b : Nat) :
    (liveIn (Function.update live r (b :: live r)) r.pool).Perm (b :: liveIn live r.pool) := by
  cases r with
  | led => exact List.Perm.refl _
  | ledRgb =>
      show (live .led ++ (b :: live .ledRgb) ++ live .output).Perm _
      exact List.perm_middle.append_right _
  | output =>
      show (live .led ++ live .ledRgb ++ (b :: live .output)).Perm _
      exact List.perm_middle
  | button => exact List.Perm.refl _

/-- A device leaves its list. -/
theorem liveIn_erase {r : Registry} {b : Nat} (hb : b ∈ live r) :
    (b :: liveIn (Function.update live r ((live r).erase b)) r.pool).Perm (liveIn live r.pool) := by
  have h := (List.perm_cons_erase hb).symm
  cases r with
  | led => exact (h.append_right _).append_right _
  | ledRgb =>
      show (b :: (live .led ++ (live .ledRgb).erase b ++ live .output)).Perm _
      refine List.Perm.trans ?_ ((h.append_left (live .led)).append_right _)
      exact List.perm_middle.symm.append_right _
  | output =>
      show (b :: (live .led ++ live .ledRgb ++ (live .output).erase b)).Perm _
      exact List.perm_middle.symm.trans (h.append_left _)
  | button => exact h

theorem liveIn_other {r : Registry} {p : PoolId} (hp : r.pool ≠ p) (l : List Nat) :
    liveIn (Function.update live r l) p = liveIn live p := by
  cases p with
  | small =>
      cases r with
      | led => exact absurd rfl hp
      | ledRgb => exact absurd rfl hp
      | output => exact absurd rfl hp
      | button => rfl
  | big =>
      cases r with
      | led => rfl
      | ledRgb => rfl
      | output => rfl
      | button => exact absurd rfl hp

@[simp] theorem inHand_none (p : PoolId) : inHand none p = [] := rfl

@[simp] theorem inHand_self (p : PoolId) (b : Nat) : inHand (some (p, b)) p = [b] := if_pos rfl

theorem inHand_other {p q : PoolId} (h : q ≠ p) (b : Nat) : inHand (some (q, b)) p = [] := if_neg h

/-! ## Fields inside blocks -/

theorem uuid_mem (r : Registry) : Field.uuid ∈ r.fields := by
  cases r <;> decide

theorem node_mem (r : Registry) : Field.node ∈ r.fields := by
  cases r <;> decide

theorem name_mem (r : Registry) : Field.name ∈ r.fields := by
  cases r <;> decide

/-- A field lies inside its device's block. -/
theorem field_inside {r : Registry} {f : Field} (hf : f ∈ r.fields) :
    t.offset r f + t.width r f ≤ r.pool.blockSize.toNat :=
  Nat.le_trans (t.inside r f hf) (t.fits_block r)

theorem DevicesOk.owned_block (h : DevicesOk t s hand live) {p : PoolId} {b : Nat}
    (hb : b ∈ inHand hand p ++ liveIn live p) : b ∈ poolBlocks (cfg t p) := by
  obtain ⟨free, hp⟩ := h.pools p
  exact hp.mem_blocks (Or.inr hb)

theorem DevicesOk.live_block (h : DevicesOk t s hand live) {r : Registry} {b : Nat}
    (hb : b ∈ live r) : b ∈ poolBlocks (cfg t r.pool) :=
  h.owned_block (List.mem_append_right _ (mem_liveIn hb))

theorem DevicesOk.owned_nodup (h : DevicesOk t s hand live) (p : PoolId) :
    (inHand hand p ++ liveIn live p).Nodup := by
  obtain ⟨free, hp⟩ := h.pools p
  have hnd := hp.nodup (cfg_valid t p)
  rw [List.nodup_append] at hnd
  exact hnd.2.1

theorem DevicesOk.liveIn_nodup (h : DevicesOk t s hand live) (p : PoolId) :
    (liveIn live p).Nodup := by
  have hnd := h.owned_nodup p
  rw [List.nodup_append] at hnd
  exact hnd.2.1

/-- The block in hand is no live device. -/
theorem DevicesOk.hand_not_live {p : PoolId} {dev : Nat}
    (h : DevicesOk t s (some (p, dev)) live) {r : Registry} (hr : r.pool = p) : dev ∉ live r := by
  have hnd := h.owned_nodup p
  rw [inHand_self, List.singleton_append, List.nodup_cons] at hnd
  exact fun hb => hnd.1 (hr ▸ mem_liveIn hb)

/-- Different fields of live devices have no byte in common. -/
theorem DevicesOk.field_off (h : DevicesOk t s hand live) {r r' : Registry} {b b' : Nat}
    {f f' : Field} (hb : b ∈ live r) (hb' : b' ∈ live r') (hf : f ∈ r.fields) (hf' : f' ∈ r'.fields)
    (hne : r = r' → b = b' → f ≠ f') {x : Nat} (hlo : b + t.offset r f ≤ x)
    (hhi : x < b + t.offset r f + t.width r f) :
    x < b' + t.offset r' f' ∨ b' + t.offset r' f' + t.width r' f' ≤ x := by
  by_cases hsame : r = r' ∧ b = b'
  · -- two fields of one device
    obtain ⟨rfl, rfl⟩ := hsame
    have hap : t.offset r f + t.width r f ≤ t.offset r f'
        ∨ t.offset r f' + t.width r f' ≤ t.offset r f := t.apart r f hf f' hf' (hne rfl rfl)
    omega
  · -- different devices are in different blocks
    have hblock : r.pool = r'.pool → b ≠ b' := by
      intro hp hbb
      subst hbb
      have hrr : r ≠ r' := fun hr => hsame ⟨hr, rfl⟩
      exact live_disjoint (h.liveIn_nodup r.pool) rfl hp.symm hrr hb hb'
    have hin := field_inside (t := t) hf
    have hin' := field_inside (t := t) hf'
    have := blocks_off t (x := x) (h.live_block hb) (h.live_block hb') hblock (by omega) (by omega)
    omega

/-! ## What may change -/

/-- The bytes of every block that is not in use are the same. -/
def FreeKept (t : Target) (m m' : Mem) (hand : Option (PoolId × Nat)) (live : Registry → List Nat) :
    Prop :=
  ∀ p, ∀ b ∈ poolBlocks (cfg t p), b ∉ inHand hand p ++ liveIn live p →
    ∀ x, b ≤ x → x < b + p.blockSize.toNat → m' x = m x

/-- The bytes of field `f` of every live device of kind `r` are the same. -/
def FieldKept (t : Target) (m m' : Mem) (live : Registry → List Nat) (r : Registry) (f : Field) :
    Prop :=
  ∀ b ∈ live r, ∀ x, b + t.offset r f ≤ x → x < b + t.offset r f + t.width r f → m' x = m x

theorem DevicesOk.pools_frame {m' : Mem} (h : DevicesOk t s hand live)
    (hk : FreeKept t s.mem m' hand live) (p : PoolId) :
    ∃ free, PoolHolds t.ptrSize (cfg t p) m' (s.freelist p) free
      (inHand hand p ++ liveIn live p) := by
  obtain ⟨free, hp⟩ := h.pools p
  refine ⟨free, hp.frame (fun a ha x hlo hhi => ?_)⟩
  have hlink : t.ptrSize ≤ p.blockSize.toNat := (cfg_valid t p).link_fits
  exact hk p a (hp.mem_blocks (Or.inl ha)) (hp.free_not_owned (cfg_valid t p) ha) x hlo (by omega)

theorem DevicesOk.list_frame {m' : Mem} (h : DevicesOk t s hand live) {r : Registry}
    (hk : FieldKept t s.mem m' live r .node) :
    SlistHolds t.ptrSize m' (s.list r) (nodesOf t r (live r)) where
  chain := by
    refine chain_frame (h.lists r).chain (fun a ha x hlo hhi => ?_)
    obtain ⟨b, hb, rfl⟩ := List.mem_map.mp ha
    exact hk b hb x hlo hhi
  count := (h.lists r).count

theorem uuidsOf_frame {m m' : Mem} {r : Registry} (hk : FieldKept t m m' live r .uuid) :
    uuidsOf t r m' (live r) = uuidsOf t r m (live r) :=
  List.map_congr_left (fun b hb => load_congr (hk b hb))

/-- **Free blocks, nodes and uuids are all that matters.** -/
theorem DevicesOk.frame {m' : Mem} (h : DevicesOk t s hand live)
    (hfree : FreeKept t s.mem m' hand live)
    (hnode : ∀ r, FieldKept t s.mem m' live r .node)
    (huuid : ∀ r, FieldKept t s.mem m' live r .uuid) :
    DevicesOk t { s with mem := m' } hand live where
  pools := h.pools_frame hfree
  lists := fun r => h.list_frame (hnode r)
  uuids := by
    intro r
    rw [uuidsOf_frame (huuid r)]
    exact h.uuids r
  counts := h.counts

/-- The block in hand is free to be written. -/
theorem DevicesOk.hand_kept {p : PoolId} {dev : Nat} (h : DevicesOk t s (some (p, dev)) live)
    {m' : Mem} (hm : AgreeOff s.mem m' dev p.blockSize.toNat) :
    FreeKept t s.mem m' (some (p, dev)) live
      ∧ ∀ r, ∀ f ∈ r.fields, FieldKept t s.mem m' live r f := by
  have hdev : dev ∈ poolBlocks (cfg t p) := h.owned_block (by simp)
  constructor
  · -- a block not in use is not the one in hand
    intro q b hb hno x hlo hhi
    refine hm x (blocks_off t hb hdev (fun hq hbd => hno ?_) hlo hhi)
    subst hq
    subst hbd
    simp
  · -- and neither is a live device's
    intro r f hf b hb x hlo hhi
    have hin := field_inside (t := t) hf
    refine hm x (blocks_off t (h.live_block hb) hdev (fun hr hbd => ?_) (by omega) (by omega))
    exact h.hand_not_live hr (hbd ▸ hb)

theorem DevicesOk.frame_hand {p : PoolId} {dev : Nat} (h : DevicesOk t s (some (p, dev)) live)
    {m' : Mem} (hm : AgreeOff s.mem m' dev p.blockSize.toNat) :
    DevicesOk t { s with mem := m' } (some (p, dev)) live := by
  obtain ⟨hfree, hfield⟩ := h.hand_kept hm
  exact h.frame hfree (fun r => hfield r .node (node_mem r)) (fun r => hfield r .uuid (uuid_mem r))

/-- A change confined to field `f` of live devices of kind `r` leaves everything else. -/
theorem DevicesOk.live_kept (h : DevicesOk t s hand live) {r : Registry} {f : Field}
    (hf : f ∈ r.fields) {m' : Mem}
    (hm : ∀ x, (∀ b ∈ live r, x < b + t.offset r f ∨ b + t.offset r f + t.width r f ≤ x) →
      m' x = s.mem x) :
    FreeKept t s.mem m' hand live
      ∧ ∀ r', ∀ f' ∈ r'.fields, (r = r' → f ≠ f') → FieldKept t s.mem m' live r' f' := by
  constructor
  · intro p b hb hno x hlo hhi
    refine hm x (fun b' hb' => ?_)
    have hin := field_inside (t := t) hf
    have := blocks_off t hb (h.live_block hb') (fun hp hbb => hno (by
      subst hp
      exact List.mem_append_right _ (hbb ▸ mem_liveIn hb'))) hlo hhi
    omega
  · intro r' f' hf' hne b hb x hlo hhi
    refine hm x (fun b' hb' => ?_)
    exact h.field_off hb hb' hf' hf (fun hr _ hff => hne hr.symm hff.symm) hlo hhi

/-- Assigning to a field of a live device other than its node and its uuid. -/
theorem DevicesOk.setField (h : DevicesOk t s hand live) {r : Registry} {dev : Nat}
    (hd : dev ∈ live r) {f : Field} (hf : f ∈ r.fields) (hnode : f ≠ .node) (huuid : f ≠ .uuid)
    (v : Nat) : DevicesOk t { s with mem := FwCore.setField t r s.mem dev f v } hand live := by
  have hm : ∀ x, (∀ b ∈ live r, x < b + t.offset r f ∨ b + t.offset r f + t.width r f ≤ x) →
      FwCore.setField t r s.mem dev f v x = s.mem x :=
    fun x hx => store_agreeOff _ _ _ v x (hx dev hd)
  obtain ⟨hfree, hfield⟩ := h.live_kept hf hm
  exact h.frame hfree (fun r' => hfield r' .node (node_mem r') (fun _ => hnode))
    (fun r' => hfield r' .uuid (uuid_mem r') (fun _ => huuid))

end

end FwCore.Proof
