import FwCore.Proof.DeviceInv

/-!
# One block moves

Each step of the device functions moves one block between the free list, the hand
and a list, and `DevicesOk` moves with it. The uuid steps do not touch memory: a
lookup sees exactly the live devices, and the search for a free uuid ends because
fewer devices are alive than there are uuids.
-/

namespace FwCore.Proof

open FwCore Lib

section

variable {t : Target} {s : Devices} {hand : Option (PoolId × Nat)} {live : Registry → List Nat}
  {r : Registry} {p : PoolId} {dev fuel : Nat}

/-! ## Pool to hand, and back -/

theorem allocate_eq (s : Devices) (p : PoolId) :
    s.allocate t p =
      ((poolAllocateGeneric t.ptrSize s.mem (s.freelist p) (cfg t p).blockSize).1,
        { s with
          mem := (poolAllocateGeneric t.ptrSize s.mem (s.freelist p) (cfg t p).blockSize).2.1
          freelist := Function.update s.freelist p
            (poolAllocateGeneric t.ptrSize s.mem (s.freelist p) (cfg t p).blockSize).2.2 }) := by
  cases p with
  | small => rfl
  | big => rfl

theorem free_eq (s : Devices) (p : PoolId) (ptr : Nat) :
    s.free t p ptr =
      { s with
        mem := (poolFreeGeneric t.ptrSize s.mem ptr (s.freelist p) (cfg t p).isFromPool).1
        freelist := Function.update s.freelist p
          (poolFreeGeneric t.ptrSize s.mem ptr (s.freelist p) (cfg t p).isFromPool).2 } := by
  cases p with
  | small => rw [← poolIsFromPool_eq]; rfl
  | big => rw [← poolBigIsFromPool_eq]; rfl

/-- A block taken off the free list is in hand; nothing else has changed. -/
theorem DevicesOk.grab (h : DevicesOk t s none live) {free : List Nat} {b : Nat}
    (hp : PoolHolds t.ptrSize (cfg t p) s.mem (s.freelist p) (b :: free) (liveIn live p)) :
    DevicesOk t { s with freelist := Function.update s.freelist p (blockNext t.ptrSize s.mem b) }
      (some (p, b)) live where
  pools := by
    refine (Function.forall_update_iff s.freelist (fun q freelist => ∃ free',
      PoolHolds t.ptrSize (cfg t q) s.mem freelist free' (inHand (some (p, b)) q ++ liveIn live q))).mpr
      ⟨⟨free, ?_⟩, fun q hq => ?_⟩
    · rw [inHand_self]
      exact hp.take.2.2
    · rw [inHand_other (Ne.symm hq)]
      exact h.pools q
  lists := h.lists
  uuids := h.uuids
  counts := h.counts

/-- **Allocation**: null if every block of the pool is a live device, otherwise a block in hand. -/
theorem allocate_spec (h : DevicesOk t s none live) (p : PoolId) :
    (s.allocate t p = (0, s) ∧ (liveIn live p).length = p.blockCount.toNat)
      ∨ ∃ dev s', s.allocate t p = (dev, s') ∧ dev ≠ 0
        ∧ (liveIn live p).length < p.blockCount.toNat
        ∧ DevicesOk t s' (some (p, dev)) live
        ∧ ∀ r, uuidsOf t r s'.mem (live r) = uuidsOf t r s.mem (live r) := by
  obtain ⟨free, hp⟩ := h.pools p
  rw [inHand_none, List.nil_append] at hp
  have hcount : free.length + (liveIn live p).length = p.blockCount.toNat := hp.count
  rw [allocate_eq]
  cases free with
  | nil =>
      left
      rw [poolAllocate_none hp, Function.update_eq_self]
      rw [List.length_nil, Nat.zero_add] at hcount
      exact ⟨rfl, hcount⟩
  | cons b free =>
      right
      obtain ⟨heq, hne, _⟩ := poolAllocate_some (cfg_valid t p) hp
      rw [heq]
      rw [List.length_cons] at hcount
      have hfill := fill_agreeOff s.mem b p.blockSize.toNat 0
      have hgrab := h.grab hp
      exact ⟨b, _, rfl, hne, by omega, hgrab.frame_hand hfill,
        fun r => uuidsOf_frame ((hgrab.hand_kept hfill).2 r .uuid (uuid_mem r))⟩

/-- **Giving the block in hand back.** -/
theorem free_spec (h : DevicesOk t s (some (p, dev)) live) :
    DevicesOk t (s.free t p dev) none live := by
  obtain ⟨free, hp⟩ := h.pools p
  rw [inHand_self, List.singleton_append] at hp
  obtain ⟨heq, hp'⟩ := poolFree_owned (cfg_valid t p) hp List.mem_cons_self
  rw [List.erase_cons_head] at hp'
  have hlink : t.ptrSize ≤ p.blockSize.toNat := (cfg_valid t p).link_fits
  have hm : AgreeOff s.mem (setBlockNext t.ptrSize s.mem dev (s.freelist p)) dev
      p.blockSize.toNat :=
    (store_agreeOff s.mem dev t.ptrSize _).mono (Nat.le_refl _) (by omega)
  have hframe := h.frame_hand hm
  rw [free_eq, heq]
  refine ⟨?_, hframe.lists, hframe.uuids, hframe.counts⟩
  refine (Function.forall_update_iff s.freelist (fun q freelist => ∃ free',
    PoolHolds t.ptrSize (cfg t q) (setBlockNext t.ptrSize s.mem dev (s.freelist p)) freelist free'
      (inHand none q ++ liveIn live q))).mpr ⟨⟨dev :: free, hp'⟩, fun q hq => ?_⟩
  have hother := hframe.pools q
  rw [inHand_other (Ne.symm hq)] at hother
  exact hother

/-- The free-block count and the live devices add up. -/
theorem freeBlockCount_spec (h : DevicesOk t s none live) (p : PoolId)
    (hf : p.blockCount.toNat < fuel) :
    ∃ n, s.freeBlockCount t fuel p = some n
      ∧ n.toNat + (liveIn live p).length = p.blockCount.toNat := by
  obtain ⟨free, hp⟩ := h.pools p
  rw [inHand_none, List.nil_append] at hp
  obtain ⟨n, hget, hsum⟩ := poolGetFreeBlockCount_spec hp hf
  refine ⟨n, ?_, hsum⟩
  cases p with
  | small => exact hget
  | big => exact hget

theorem live_le (h : DevicesOk t s hand live) (r : Registry) :
    (live r).length ≤ r.pool.blockCount.toNat := by
  obtain ⟨free, hp⟩ := h.pools r.pool
  have hcount : free.length + (inHand hand r.pool ++ liveIn live r.pool).length
      = r.pool.blockCount.toNat := hp.count
  have : (live r).length ≤ (liveIn live r.pool).length := live_length
  rw [List.length_append] at hcount
  omega

/-! ## Hand to list, and back -/

/-- The places of a kind's nodes: at one offset in the blocks of its pool. -/
def deviceNodes (t : Target) (r : Registry) : NodeSpace t.ptrSize where
  isNode a := ∃ b ∈ poolBlocks (cfg t r.pool), a = b + t.offset r .node
  nonnull a ha := by
    obtain ⟨b, hb, rfl⟩ := ha
    have := (poolNodes (cfg_valid t r.pool)).nonnull b hb
    omega
  fits a ha := by
    obtain ⟨b, hb, rfl⟩ := ha
    have hin : t.offset r .node + t.ptrSize ≤ r.pool.blockSize.toNat := field_inside (node_mem r)
    have hblock : b + r.pool.blockSize.toNat ≤ (cfg t r.pool).poolEnd := (block_inside hb).2
    have hspace : (cfg t r.pool).poolEnd ≤ 256 ^ t.ptrSize := (cfg_valid t r.pool).in_space
    have := t.ptr_pos
    omega
  apart a b ha hb hne := by
    obtain ⟨a, ha, rfl⟩ := ha
    obtain ⟨b, hb, rfl⟩ := hb
    have hap : Apart r.pool.blockSize.toNat a b := blocks_apart ha hb (fun he => hne (he ▸ rfl))
    have hlink : t.ptrSize ≤ r.pool.blockSize.toNat := (cfg_valid t r.pool).link_fits
    rcases hap.mono hlink with hap | hap
    · exact Or.inl (by omega)
    · exact Or.inr (by omega)

theorem DevicesOk.nodes (h : DevicesOk t s hand live) :
    ∀ a ∈ nodesOf t r (live r), (deviceNodes t r).isNode a := by
  intro a ha
  obtain ⟨b, hb, rfl⟩ := List.mem_map.mp ha
  exact ⟨b, h.live_block hb, rfl⟩

theorem node_inj : Function.Injective (fun d => d + t.offset r .node) :=
  fun _ _ h => Nat.add_right_cancel h

theorem mem_nodesOf {l : List Nat} : dev + t.offset r .node ∈ nodesOf t r l ↔ dev ∈ l :=
  List.mem_map_of_injective node_inj

/-- One list and its devices change together. -/
theorem lists_update {m : Mem} {list : Registry → SlistHead} {head : SlistHead} {l : List Nat}
    (hr : SlistHolds t.ptrSize m head (nodesOf t r l))
    (hother : ∀ r', r' ≠ r → SlistHolds t.ptrSize m (list r') (nodesOf t r' (live r')))
    (r' : Registry) :
    SlistHolds t.ptrSize m (Function.update list r head r')
      (nodesOf t r' (Function.update live r l r')) := by
  by_cases hrr : r' = r
  · subst hrr
    rw [Function.update_self, Function.update_self]
    exact hr
  · rw [Function.update_of_ne hrr, Function.update_of_ne hrr]
    exact hother r' hrr

theorem uuids_update {m : Mem} {l : List Nat} (hr : (uuidsOf t r m l).Nodup)
    (hother : ∀ r', r' ≠ r → (uuidsOf t r' m (live r')).Nodup) :
    ∀ r', (uuidsOf t r' m (Function.update live r l r')).Nodup :=
  (Function.forall_update_iff live (fun r' l => (uuidsOf t r' m l).Nodup)).mpr ⟨hr, hother⟩

/-- **Linking the block in hand**, once it has a uuid of its own. -/
theorem pushFront_spec (h : DevicesOk t s (some (r.pool, dev)) live)
    (hu : uuidOf t r s.mem dev ∉ uuidsOf t r s.mem (live r)) :
    DevicesOk t (s.pushFront t r dev) none (Function.update live r (dev :: live r)) := by
  have hdev : dev ∈ poolBlocks (cfg t r.pool) := h.owned_block (by simp)
  have hin : t.offset r .node + t.ptrSize ≤ r.pool.blockSize.toNat := field_inside (node_mem r)
  have hnew : dev + t.offset r .node ∉ nodesOf t r (live r) :=
    fun hm => h.hand_not_live rfl (mem_nodesOf.mp hm)
  have hm : AgreeOff s.mem (s.pushFront t r dev).mem dev r.pool.blockSize.toNat :=
    (store_agreeOff s.mem (dev + t.offset r .node) t.ptrSize _).mono (Nat.le_add_right _ _)
      (by omega)
  have hframe := h.frame_hand hm
  have hkept := (h.hand_kept hm).2
  have hlist := pushFront_holds (deviceNodes t r) (h.lists r) h.nodes ⟨dev, hdev, rfl⟩ hnew
  -- the node is not the uuid
  have hself : uuidOf t r (s.pushFront t r dev).mem dev = uuidOf t r s.mem dev :=
    (store_agreeOff s.mem (dev + t.offset r .node) t.ptrSize _).load_eq (by
      have hap : t.offset r .uuid + t.width r .uuid ≤ t.offset r .node
          ∨ t.offset r .node + t.ptrSize ≤ t.offset r .uuid :=
        t.apart r .uuid (uuid_mem r) .node (node_mem r) (by decide)
      omega)
  have hsame := uuidsOf_frame (hkept r .uuid (uuid_mem r))
  refine ⟨fun q => ?_, lists_update hlist (fun r' _ => hframe.lists r'),
    uuids_update ?_ (fun r' _ => hframe.uuids r'), hframe.counts⟩
  · obtain ⟨free, hp⟩ := hframe.pools q
    refine ⟨free, hp.chain, ?_⟩
    by_cases hq : r.pool = q
    · -- its own pool: the block changes from the hand to the live devices
      subst hq
      refine List.Perm.trans (List.Perm.append_left free ?_) hp.perm
      rw [inHand_none, List.nil_append, inHand_self, List.singleton_append]
      exact liveIn_cons r dev
    · rw [inHand_none, List.nil_append, liveIn_other hq]
      have hperm := hp.perm
      rw [inHand_other hq, List.nil_append] at hperm
      exact hperm
  · rw [uuidsOf, List.map_cons, List.nodup_cons]
    refine ⟨?_, hframe.uuids r⟩
    rw [uuidsOf] at hsame
    rw [hself, hsame]
    exact hu

/-- **Unlinking a live device** leaves its block in hand. -/
theorem remove_spec (h : DevicesOk t s none live) (hd : dev ∈ live r)
    (hf : (live r).length < fuel) :
    ∃ s', s.remove t fuel r dev = some s'
      ∧ DevicesOk t s' (some (r.pool, dev)) (Function.update live r ((live r).erase dev))
      ∧ s'.uuidCount = s.uuidCount := by
  have hlen : (nodesOf t r (live r)).length < fuel := by
    rw [nodesOf, List.length_map]
    exact hf
  obtain ⟨m', head', heq, hlist, hm, _⟩ := remove_holds (deviceNodes t r)
    (n := dev + t.offset r .node) (h.lists r) h.nodes hlen
  have hm' : ∀ x, (∀ b ∈ live r, x < b + t.offset r .node
      ∨ b + t.offset r .node + t.width r .node ≤ x) → m' x = s.mem x := by
    intro x hx
    refine hm x (fun a ha => ?_)
    obtain ⟨b, hb, rfl⟩ := List.mem_map.mp ha
    exact hx b hb
  obtain ⟨hfree, hfield⟩ := h.live_kept (node_mem r) hm'
  have huuid : ∀ r', uuidsOf t r' m' (live r') = uuidsOf t r' s.mem (live r') :=
    fun r' => uuidsOf_frame (hfield r' .uuid (uuid_mem r') (fun _ => by decide))
  have hnodes : (nodesOf t r (live r)).erase (dev + t.offset r .node)
      = nodesOf t r ((live r).erase dev) := (List.map_erase node_inj (live r)).symm
  rw [hnodes] at hlist
  refine ⟨{ s with mem := m', list := Function.update s.list r head' }, ?_,
    ⟨fun q => ?_, lists_update hlist (fun r' hr => ?_), uuids_update ?_ (fun r' _ => ?_), h.counts⟩, rfl⟩
  · rw [Devices.remove, heq]
    rfl
  · obtain ⟨free, hp⟩ := h.pools_frame hfree q
    refine ⟨free, hp.chain, ?_⟩
    by_cases hq : r.pool = q
    · subst hq
      refine List.Perm.trans (List.Perm.append_left free ?_) hp.perm
      rw [inHand_none, List.nil_append, inHand_self, List.singleton_append]
      exact liveIn_erase hd
    · rw [inHand_other hq, liveIn_other hq]
      exact hp.perm
  · exact h.list_frame (hfield r' .node (node_mem r') (fun he => absurd he.symm hr))
  · have hnd := h.uuids r
    rw [← huuid r] at hnd
    exact hnd.sublist (List.Sublist.map _ List.erase_sublist)
  · rw [huuid r']
    exact h.uuids r'

/-! ## Uuids -/

/-- A lookup finds the first live device with the uuid. -/
theorem uuidNode_spec (h : DevicesOk t s hand live) (hf : (live r).length < fuel) (uuid : Nat) :
    uuidNode t r fuel s uuid
      = some (((live r).find? (fun d => uuidOf t r s.mem d == uuid)).elim 0
          (fun d => d + t.offset r .node)) := by
  have hlen : (nodesOf t r (live r)).length < fuel := by
    rw [nodesOf, List.length_map]
    exact hf
  rw [uuidNode, slistFind_eq _ _ (h.lists r).chain hlen, nodesOf, List.find?_map]
  have hfun : (fun it => getField t r s.mem (containerOf t r it) .uuid == uuid)
      ∘ (fun d => d + t.offset r .node) = fun d => uuidOf t r s.mem d == uuid := by
    funext d
    rw [Function.comp_apply, containerOf, Nat.add_sub_cancel]
    rfl
  rw [hfun]
  cases (live r).find? (fun d => uuidOf t r s.mem d == uuid) with
  | none => rfl
  | some d => rfl

theorem DevicesOk.live_ne_zero (h : DevicesOk t s hand live) (hd : dev ∈ live r) : dev ≠ 0 :=
  (poolNodes (cfg_valid t r.pool)).nonnull dev (h.live_block hd)

theorem uuidExists_spec (h : DevicesOk t s hand live) (hf : (live r).length < fuel) (uuid : Nat) :
    uuidExists t r fuel s uuid = some (decide (uuid ∈ uuidsOf t r s.mem (live r))) := by
  rw [uuidExists, uuidNode_spec h hf]
  show some _ = some _
  congr 1
  rw [Bool.eq_iff_iff, bne_iff_ne, decide_eq_true_iff, uuidsOf, List.mem_map]
  cases hfind : (live r).find? (fun d => uuidOf t r s.mem d == uuid) with
  | none =>
      rw [List.find?_eq_none] at hfind
      refine ⟨fun h0 => absurd rfl h0, fun ⟨d, hd, hu⟩ => ?_⟩
      exact absurd (hfind d hd) (by simp [hu])
  | some d =>
      have hd := List.mem_of_find?_eq_some hfind
      have hu : uuidOf t r s.mem d = uuid := by simpa using List.find?_some hfind
      have := h.live_ne_zero hd
      refine ⟨fun _ => ⟨d, hd, hu⟩, fun _ => ?_⟩
      show d + t.offset r .node ≠ 0
      omega

/-- **A lookup returns the one live device with the uuid**, and null if there is none. -/
theorem getByUuid_spec (h : DevicesOk t s hand live) (hf : (live r).length < fuel) (uuid : Nat) :
    ∃ d, getByUuid t r fuel s uuid = some d
      ∧ (d = 0 ↔ uuid ∉ uuidsOf t r s.mem (live r))
      ∧ (d ≠ 0 → d ∈ live r ∧ uuidOf t r s.mem d = uuid
          ∧ ∀ d' ∈ live r, uuidOf t r s.mem d' = uuid → d' = d) := by
  rw [getByUuid, uuidNode_spec h hf]
  cases hfind : (live r).find? (fun d => uuidOf t r s.mem d == uuid) with
  | none =>
      rw [List.find?_eq_none] at hfind
      refine ⟨0, rfl, ⟨fun _ hm => ?_, fun _ => rfl⟩, fun h0 => absurd rfl h0⟩
      obtain ⟨d, hd, hu⟩ := List.mem_map.mp hm
      exact absurd (hfind d hd) (by simp [hu])
  | some d =>
      have hd := List.mem_of_find?_eq_some hfind
      have hu : uuidOf t r s.mem d = uuid := by simpa using List.find?_some hfind
      have hne := h.live_ne_zero hd
      have hnode : d + t.offset r .node ≠ 0 := by omega
      refine ⟨d, ?_, ⟨fun h0 => absurd h0 hne, fun hno => ?_⟩,
        fun _ => ⟨hd, hu, fun d' hd' hu' => ?_⟩⟩
      · show some (if d + t.offset r .node = 0 then 0
          else containerOf t r (d + t.offset r .node)) = _
        rw [if_neg hnode, containerOf, Nat.add_sub_cancel]
      · exact absurd (List.mem_map.mpr ⟨d, hd, hu⟩) hno
      · exact List.inj_on_of_nodup_map (h.uuids r) hd' hd (hu'.trans hu.symm)

theorem DevicesOk.count_bump (h : DevicesOk t s hand live) (r : Registry) :
    DevicesOk t (s.bumpUuid r) hand live where
  pools := h.pools
  lists := h.lists
  uuids := h.uuids
  counts := by
    refine (Function.forall_update_iff s.uuidCount (fun r' c => c < 256 ^ r'.uuidBytes)).mpr
      ⟨Nat.mod_lt _ (Nat.pow_pos (by decide)), fun r' _ => h.counts r'⟩

/-- The search takes `k` steps, to the first number ahead that is free, and `k + 1` tests. -/
theorem searchUuid_exact (hf : (live r).length < fuel) : ∀ (k : Nat) {s : Devices},
    DevicesOk t s hand live →
    (∀ j < k, (s.uuidCount r + j) % 256 ^ r.uuidBytes ∈ uuidsOf t r s.mem (live r)) →
    (s.uuidCount r + k) % 256 ^ r.uuidBytes ∉ uuidsOf t r s.mem (live r) →
    ∃ s', (∀ n, searchUuid t r fuel n s = if k < n then some s' else none)
      ∧ DevicesOk t s' hand live ∧ s'.mem = s.mem
      ∧ s'.uuidCount r = (s.uuidCount r + k) % 256 ^ r.uuidBytes
  | 0, s, h, _, hfree => by
      rw [Nat.add_zero, Nat.mod_eq_of_lt (h.counts r)] at hfree ⊢
      refine ⟨s, fun n => ?_, h, rfl, rfl⟩
      cases n with
      | zero => rfl
      | succ n =>
          rw [searchUuid, uuidExists_spec h hf, decide_eq_false hfree, if_pos (Nat.succ_pos n)]
          rfl
  | k + 1, s, h, htaken, hfree => by
      have hnow : s.uuidCount r ∈ uuidsOf t r s.mem (live r) := by
        have h0 := htaken 0 (Nat.succ_pos k)
        rw [Nat.add_zero, Nat.mod_eq_of_lt (h.counts r)] at h0
        exact h0
      have hahead : ∀ j, ((s.bumpUuid r).uuidCount r + j) % 256 ^ r.uuidBytes
          = (s.uuidCount r + (j + 1)) % 256 ^ r.uuidBytes := by
        intro j
        rw [bumpUuid_count, Nat.mod_add_mod, Nat.add_assoc, Nat.add_comm 1 j]
      obtain ⟨s', heq, h', hmem, hcount⟩ := searchUuid_exact hf k (h.count_bump r)
        (fun j hj => by rw [hahead]; exact htaken (j + 1) (Nat.succ_lt_succ hj))
        (by rw [hahead]; exact hfree)
      refine ⟨s', fun n => ?_, h', hmem, hcount.trans (hahead k)⟩
      cases n with
      | zero => rfl
      | succ n =>
          -- taken: one step round the circle
          rw [searchUuid, uuidExists_spec h hf, decide_eq_true hnow]
          refine (heq n).trans (if_congr ?_ rfl rfl)
          exact (Nat.succ_lt_succ_iff).symm

/-- **The search for a free uuid ends**, on a uuid of no live device. -/
theorem searchUuid_spec (h : DevicesOk t s hand live) (hf : (live r).length < fuel)
    (hfew : (live r).length < 256 ^ r.uuidBytes) :
    ∃ s', searchUuid t r fuel fuel s = some s' ∧ DevicesOk t s' hand live ∧ s'.mem = s.mem
      ∧ s'.uuidCount r ∉ uuidsOf t r s.mem (live r) := by
  have hlen : (uuidsOf t r s.mem (live r)).length = (live r).length := List.length_map ..
  obtain ⟨k, hk, hfree, htaken⟩ := first_free (s.uuidCount r) (uuidsOf t r s.mem (live r))
    (by rw [hlen]; exact hfew)
  rw [hlen] at hk
  obtain ⟨s', heq, h', hmem, hcount⟩ := searchUuid_exact hf k h htaken hfree
  refine ⟨s', (heq fuel).trans (if_pos (by omega)), h', hmem, ?_⟩
  rw [hcount]
  exact hfree

end

end FwCore.Proof
