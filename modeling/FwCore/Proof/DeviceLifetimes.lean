import FwCore.Proof.DeviceEdits
import FwCore.Proof.DeviceRegistries

/-!
# What creation and destruction do to memory

A creation writes inside one block, which no live device has, and leaves in it the
record it was asked for: the fields it assigns, and zeros from the allocation where it
assigns none, so that the timers of a new button have never been set up. A destruction
writes the nodes of the devices of its kind, and the block it gives back. Neither
changes the record of any other device.
-/

namespace FwCore.Proof

open FwCore Lib

section

variable {t : Target} {d : ButtonTimers t} {s : Devices} {live : Registry → List Nat}
  {r : Registry} {dev fuel : Nat}

/-! ## A block becomes a struct -/

/-- The assignments `vs` to a zeroed struct, besides its `node`, make it hold `rec`. -/
structure Fills (r : Registry) (vs : List (Field × Nat)) (name : Nat) (rec : r.Record) : Prop where
  fields : ∀ fv ∈ vs, fv.1 ∈ r.fields
  nodup : (vs.map Prod.fst).Nodup
  node : Field.node ∉ vs.map Prod.fst
  name : (Field.name, name) ∈ vs
  assigned : ∀ f v, (f, v) ∈ vs → f ≠ .name → v = recordValue r rec (.field f)
  zero : ∀ i ∈ data r, (∀ f ∈ vs.map Prod.fst, i ≠ .field f) → recordValue r rec i = 0

/-- The same assignments, to members. -/
theorem setFields_setAll (d : ButtonTimers t) (m : Mem) (dev : Nat) (fs : List (Field × Nat)) :
    setFields t r m dev fs
      = (deviceLayout d r).setAll m dev (fs.map fun fv => (Member.field fv.1, fv.2)) := by
  rw [setFields, Layout.setAll, List.foldl_map]
  rfl

theorem setFields_append (m : Mem) (dev : Nat) (fs gs : List (Field × Nat)) :
    setFields t r m dev (fs ++ gs) = setFields t r (setFields t r m dev fs) dev gs :=
  List.foldl_append ..

/-- A zeroed block, its fields assigned and its node linked, holds the record. -/
theorem holds_new (m : Mem) {vs : List (Field × Nat)} {name : Nat} {rec : r.Record}
    (hfill : Fills r vs name rec) (hname : name < 256 ^ t.ptrSize)
    (hstr : t.cstr name = recordName r rec) (next : Nat) :
    Holds d r (setField t r (setFields t r (m.fill dev r.pool.blockSize.toNat 0) dev vs) dev .node
      next) dev rec := by
  have hkeep : ∀ f ∈ r.fields, f ≠ .node → getField t r (setField t r (setFields t r
      (m.fill dev r.pool.blockSize.toNat 0) dev vs) dev .node next) dev f
      = getField t r (setFields t r (m.fill dev r.pool.blockSize.toNat 0) dev vs) dev f :=
    fun f hf hne => getField_setField_other _ _ _ (node_mem r) hf hne
  constructor
  · have hget := getField_setFields (name_mem r) hname vs (m.fill dev r.pool.blockSize.toNat 0) dev
      hfill.fields hfill.nodup hfill.name
    rw [hkeep .name (name_mem r) (by decide), hget, hstr]
  · intro i hi
    by_cases hass : ∃ f ∈ vs.map Prod.fst, i = .field f
    · -- an assigned field
      obtain ⟨f, hf, rfl⟩ := hass
      obtain ⟨⟨f', v⟩, hfv, rfl⟩ := List.mem_map.mp hf
      have hne : f' ≠ .name := by
        rintro rfl
        have hne := (List.mem_filter.mp hi).2
        simp at hne
      have hfield : f' ∈ r.fields := hfill.fields _ hfv
      have hnode : f' ≠ .node := fun hn => data_node hi (hn ▸ rfl)
      have hv := hfill.assigned f' v hfv hne
      have hlt : v < 256 ^ t.width r f' := by
        rw [hv]
        exact recordValue_lt d r rec hi
      have hget := getField_setFields hfield hlt vs (m.fill dev r.pool.blockSize.toNat 0) dev
        hfill.fields hfill.nodup hfv
      rw [get_field, hkeep f' hfield hnode, hget, hv]
    · -- what was not assigned is zero since the allocation
      have hno : ∀ f ∈ vs.map Prod.fst, i ≠ .field f := fun f hf hif => hass ⟨f, hf, hif⟩
      have hmem := data_mem hi
      rw [hfill.zero i hi hno, ← set_field d, setFields_setAll d,
        Layout.get_set_of_ne (field_members (node_mem r)) hmem (data_node hi),
        Layout.get_setAll_of_notMem hmem ?_ ?_]
      · have hin : (deviceLayout d r).offset i + (deviceLayout d r).width i ≤ t.sizeOf r :=
          (deviceLayout d r).inside i hmem
        have hfits := t.fits_block r
        exact load_fill_zero m (Nat.le_add_right _ _) (by omega)
      · intro j hj
        rw [List.map_map, List.mem_map] at hj
        obtain ⟨fv, hfv, rfl⟩ := hj
        exact field_members (hfill.fields fv hfv)
      · intro hj
        rw [List.map_map, List.mem_map] at hj
        obtain ⟨fv, hfv, rfl⟩ := hj
        exact hno fv.1 (List.mem_map.mpr ⟨fv, hfv, rfl⟩) rfl

/-! ## Creation -/

/-- The block an allocation returns has been zeroed, and nothing else has changed. -/
theorem allocate_mem (s : Devices) (p : PoolId) (hne : (s.allocate t p).1 ≠ 0) :
    (s.allocate t p).2.mem = s.mem.fill (s.allocate t p).1 p.blockSize.toNat 0
      ∧ (s.allocate t p).2.list = s.list ∧ (s.allocate t p).2.uuidCount = s.uuidCount := by
  rw [allocate_eq] at hne ⊢
  unfold poolAllocateGeneric at hne ⊢
  dsimp only at hne ⊢
  by_cases h0 : s.freelist p = 0
  · rw [if_pos h0] at hne
    exact absurd rfl hne
  · rw [if_neg h0]
    exact ⟨rfl, rfl, rfl⟩

/-- The search for a uuid moves one counter. -/
theorem searchUuid_counter (n : Nat) : ∀ {s s' : Devices}, searchUuid t r fuel n s = some s' →
    s' = { s with uuidCount := Function.update s.uuidCount r (s'.uuidCount r) } := by
  induction n with
  | zero =>
      intro s s' h
      cases h
  | succ n ih =>
      intro s s' h
      rw [searchUuid] at h
      cases hex : uuidExists t r fuel s (s.uuidCount r) with
      | none =>
          rw [hex] at h
          cases h
      | some taken =>
          rw [hex] at h
          cases taken with
          | false =>
              obtain rfl : s = s' := Option.some.inj h
              rw [Function.update_eq_self]
          | true =>
              rw [ih h]
              simp [Devices.bumpUuid]

/-- The search stops at the first uuid from the counter on, around the circle, that is free. -/
theorem searchUuid_first {hand : Option (PoolId × Nat)} (h : DevicesOk t s hand live)
    (hf : (live r).length < fuel) (hfew : (live r).length < 256 ^ r.uuidBytes) :
    ∃ k s', k ≤ (live r).length ∧ searchUuid t r fuel fuel s = some s'
      ∧ s' = { s with
        uuidCount := Function.update s.uuidCount r ((s.uuidCount r + k) % 256 ^ r.uuidBytes) }
      ∧ (s.uuidCount r + k) % 256 ^ r.uuidBytes ∉ uuidsOf t r s.mem (live r)
      ∧ ∀ j < k, (s.uuidCount r + j) % 256 ^ r.uuidBytes ∈ uuidsOf t r s.mem (live r) := by
  have hlen : (uuidsOf t r s.mem (live r)).length = (live r).length := List.length_map ..
  obtain ⟨k, hk, hfree, htaken⟩ := first_free (s.uuidCount r) (uuidsOf t r s.mem (live r))
    (by rw [hlen]; exact hfew)
  rw [hlen] at hk
  obtain ⟨s', heq, _, _, hcount⟩ := searchUuid_exact hf k h htaken hfree
  have hsearch : searchUuid t r fuel fuel s = some s' := (heq fuel).trans (if_pos (by omega))
  refine ⟨k, s', hk, hsearch, ?_, hfree, htaken⟩
  rw [← hcount]
  exact searchUuid_counter fuel hsearch

/-- The block of a new device, and nothing else, has been written. -/
structure NewDevice (t : Target) (s : Devices) (live : Registry → List Nat) (r : Registry)
    (vs : List (Field × Nat)) (dev : Nat) (s' : Devices) : Prop where
  ne_zero : dev ≠ 0
  fresh : ∀ r', dev ∉ live r'
  ok : DevicesOk t s' none (Function.update live r (dev :: live r))
  mem : ∃ next, s'.mem
    = setField t r (setFields t r (s.mem.fill dev r.pool.blockSize.toNat 0) dev vs) dev .node next

/-- A new device is in no list yet, not even one of the other pool. -/
theorem fresh_of_ok {s' : Devices}
    (h : DevicesOk t s' none (Function.update live r (dev :: live r))) (r' : Registry) :
    dev ∉ live r' := by
  have hlive : dev ∈ Function.update live r (dev :: live r) r := by simp
  intro hd
  by_cases hr : r' = r
  · -- its own list has no duplicates
    subst hr
    have hnd : ((uuidsOf t r' s'.mem (dev :: live r')).Nodup) := by
      have := h.uuids r'
      rwa [Function.update_self] at this
    rw [uuidsOf, List.map_cons, List.nodup_cons] at hnd
    exact hnd.1 (List.mem_map_of_mem hd)
  · -- another list has other blocks
    have hd' : dev ∈ Function.update live r (dev :: live r) r' := by
      rw [Function.update_of_ne hr]
      exact hd
    have hpos : 0 < r.pool.blockSize.toNat := by
      cases r <;> decide
    have hpos' : 0 < r'.pool.blockSize.toNat := by
      cases r' <;> decide
    have := DevicesOk.block_off h hlive hd' (fun hrr => absurd hrr.symm hr) (Nat.le_refl dev)
      (by omega)
    omega

theorem NewDevice.others {vs : List (Field × Nat)} {s' : Devices}
    (h : NewDevice t s live r vs dev s') (hvs : ∀ fv ∈ vs, fv.1 ∈ r.fields) {r' : Registry}
    {b : Nat} {rec : r'.Record}
    (hb : b ∈ live r') (hr : Holds d r' s.mem b rec) : Holds d r' s'.mem b rec := by
  have hlive : dev ∈ Function.update live r (dev :: live r) r := by simp
  have hb' : b ∈ Function.update live r (dev :: live r) r' := by
    by_cases hrr : r' = r
    · subst hrr
      simp [hb]
    · rw [Function.update_of_ne hrr]
      exact hb
  obtain ⟨next, hmem⟩ := h.mem
  -- the three steps stay inside the block
  have hagree : AgreeOff s.mem s'.mem dev r.pool.blockSize.toNat := by
    rw [hmem]
    exact ((fill_agreeOff s.mem dev _ 0).trans (setFields_agreeOff vs _ dev hvs)).trans
      (setField_agreeOff (node_mem r) _ dev next)
  refine hr.congr (fun i hi _ x hx => hagree x ?_)
  have hin := at_block hi hx
  have hne : r' = r → b ≠ dev := fun _ hbd => h.fresh r' (hbd ▸ hb)
  exact h.ok.block_off hb' hlive hne hin.1 hin.2

/-- The last steps of a creation: the uuid is assigned and counted, the node linked. -/
def finished (t : Target) (r : Registry) (s : Devices) (dev : Nat) : Devices :=
  let s := { s with mem := setField t r s.mem dev .uuid (s.uuidCount r) }
  (s.bumpUuid r).pushFront t r dev

theorem deviceCreate_none (s : Devices) (fields : List (Field × Nat)) (early : List DeviceEvent)
    (report : Mem → Nat → UprintCall) (lowMemory : UprintCall)
    (halloc : s.allocate t r.pool = (0, s)) :
    deviceCreate t r fuel s fields early report lowMemory = some ⟨0, s, [.uprint lowMemory]⟩ := by
  rw [deviceCreate, halloc]
  exact if_pos rfl

theorem deviceCreate_some {s₁ s₂ : Devices} {fields : List (Field × Nat)} (early : List DeviceEvent)
    (report : Mem → Nat → UprintCall) (lowMemory : UprintCall)
    (halloc : s.allocate t r.pool = (dev, s₁)) (hne : dev ≠ 0)
    (hsearch : searchUuid t r fuel fuel { s₁ with mem := setFields t r s₁.mem dev fields }
      = some s₂) :
    deviceCreate t r fuel s fields early report lowMemory
      = some ⟨dev, finished t r s₂ dev,
        early ++ [.uprint (report (finished t r s₂ dev).mem dev)]⟩ := by
  rw [deviceCreate, halloc]
  dsimp only
  rw [if_neg hne, hsearch]
  rfl

/-- **What the functions that search for a uuid do.** -/
theorem deviceCreate_exact (h : DevicesOk t s none live) (hf : 64 < fuel)
    {fields : List (Field × Nat)} (hfields : ∀ fv ∈ fields, fv.1 ∈ r.fields)
    (early : List DeviceEvent) (report : Mem → Nat → UprintCall) (lowMemory : UprintCall) :
    (Exhausted live r
        ∧ deviceCreate t r fuel s fields early report lowMemory = some ⟨0, s, [.uprint lowMemory]⟩)
      ∨ (¬Exhausted live r ∧ ∃ k dev s', k ≤ (live r).length
        ∧ (s.uuidCount r + k) % 256 ^ r.uuidBytes ∉ uuidsOf t r s.mem (live r)
        ∧ (∀ j < k, (s.uuidCount r + j) % 256 ^ r.uuidBytes ∈ uuidsOf t r s.mem (live r))
        ∧ deviceCreate t r fuel s fields early report lowMemory
          = some ⟨dev, s', early ++ [.uprint (report s'.mem dev)]⟩
        ∧ s'.uuidCount = Function.update s.uuidCount r
          (((s.uuidCount r + k) % 256 ^ r.uuidBytes + 1) % 256 ^ r.uuidBytes)
        ∧ NewDevice t s live r
          (fields ++ [(.uuid, (s.uuidCount r + k) % 256 ^ r.uuidBytes)]) dev s') := by
  obtain ⟨hfew, hfew'⟩ := live_few h r
  have hfuel : (live r).length < fuel := by omega
  rcases allocate_spec h r.pool with ⟨halloc, hfull⟩ | ⟨dev, s₁, halloc, hne, hroom, h₁, hsame⟩
  · exact Or.inl ⟨hfull, deviceCreate_none s fields early report lowMemory halloc⟩
  · refine Or.inr ⟨fun hfull => by rw [Exhausted] at hfull; omega, ?_⟩
    obtain ⟨hmem₁, _, hcount₁⟩ := allocate_mem (t := t) s r.pool (by rw [halloc]; exact hne)
    rw [halloc] at hmem₁ hcount₁
    dsimp only at hmem₁ hcount₁
    have hagree := setFields_agreeOff (t := t) fields s₁.mem dev hfields
    have huuids : uuidsOf t r (setFields t r s₁.mem dev fields) (live r)
        = uuidsOf t r s.mem (live r) :=
      (uuidsOf_frame ((h₁.hand_kept hagree).2 r .uuid (uuid_mem r))).trans (hsame r)
    obtain ⟨k, s₂, hk, hsearch, hs₂, hfree, htaken⟩ :=
      searchUuid_first (h₁.frame_hand hagree) hfuel hfew'
    dsimp only at hs₂ hfree htaken
    rw [huuids, hcount₁] at hfree htaken
    rw [hcount₁] at hs₂
    have hcreate := deviceCreate_some early report lowMemory halloc hne hsearch
    obtain ⟨res, heq, hcreated, _⟩ := deviceCreate_spec h hf hfields early report lowMemory
    rw [hcreate] at heq
    obtain rfl := Option.some.inj heq
    refine ⟨k, dev, finished t r s₂ dev, hk, hfree, htaken, hcreate, ?_, ?_⟩
    · rw [hs₂]
      simp [finished, Devices.pushFront, Devices.bumpUuid]
    · cases hcreated with
      | null => exact absurd rfl hne
      | device _ _ hok =>
          refine ⟨hne, fresh_of_ok hok, hok, (s₂.list r).first, ?_⟩
          rw [setFields_append, ← hmem₁, hs₂]
          simp [finished, Devices.pushFront, Devices.bumpUuid, slistPushFront, setNext, setField,
            setFields, Target.width, Field.width]

/-- **What the functions that are given a uuid do.** -/
theorem deviceCreateWithUuid_exact (h : DevicesOk t s none live) (hf : 64 < fuel) {uuid : Nat}
    (hu : uuid < 256 ^ r.uuidBytes) {fields : List (Field × Nat)}
    (hfields : ∀ fv ∈ fields, fv.1 ∈ r.fields) (hnd : (fields.map Prod.fst).Nodup)
    (hm : (Field.uuid, uuid) ∈ fields) (early : List DeviceEvent)
    (report : Mem → Nat → UprintCall) (lowMemory duplicate : UprintCall) :
    (uuid ∈ uuidsOf t r s.mem (live r)
        ∧ deviceCreateWithUuid t r fuel s uuid fields early report lowMemory duplicate
          = some ⟨0, s, [.uprint duplicate]⟩)
      ∨ (uuid ∉ uuidsOf t r s.mem (live r) ∧ Exhausted live r
        ∧ deviceCreateWithUuid t r fuel s uuid fields early report lowMemory duplicate
          = some ⟨0, s, [.uprint lowMemory]⟩)
      ∨ (uuid ∉ uuidsOf t r s.mem (live r) ∧ ¬Exhausted live r ∧ ∃ dev s',
        deviceCreateWithUuid t r fuel s uuid fields early report lowMemory duplicate
          = some ⟨dev, s', early ++ [.uprint (report s'.mem dev)]⟩
        ∧ s'.uuidCount = s.uuidCount ∧ NewDevice t s live r fields dev s') := by
  have hfuel : (live r).length < fuel := Nat.lt_of_le_of_lt (live_few h r).1 hf
  obtain ⟨res, heq, hcreated, _⟩ :=
    deviceCreateWithUuid_spec h hf hu hfields hnd hm early report lowMemory duplicate
  rw [deviceCreateWithUuid, uuidExists_spec h hfuel] at heq ⊢
  by_cases htaken : uuid ∈ uuidsOf t r s.mem (live r)
  · refine Or.inl ⟨htaken, ?_⟩
    rw [decide_eq_true htaken]
    rfl
  · rw [decide_eq_false htaken] at heq ⊢
    rcases allocate_spec h r.pool with ⟨halloc, hfull⟩ | ⟨dev, s₁, halloc, hne, hroom, _⟩
    · refine Or.inr (Or.inl ⟨htaken, hfull, ?_⟩)
      rw [halloc]
      rfl
    · obtain ⟨hmem₁, _, hcount₁⟩ := allocate_mem (t := t) s r.pool (by rw [halloc]; exact hne)
      rw [halloc] at heq hmem₁ hcount₁ ⊢
      have hres := (if_neg hne).symm.trans heq
      obtain rfl := Option.some.inj hres
      refine Or.inr (Or.inr ⟨htaken, fun hfull => by rw [Exhausted] at hfull; omega, dev, _,
        if_neg hne, hcount₁, ?_⟩)
      cases hcreated with
      | null => exact absurd rfl hne
      | device _ _ hok =>
          refine ⟨hne, fresh_of_ok hok, hok, (s₁.list r).first, ?_⟩
          rw [← hmem₁]
          rfl

/-! ## Destruction -/

/-- A destruction writes nodes of the kind, and the block it gives back. -/
theorem deviceDestroy_exact (h : DevicesOk t s none live) (hf : 64 < fuel) (hd : dev ∈ live r) :
    ∃ s', deviceDestroy t r fuel s dev
        = some ⟨0, s', [.uprint ⟨"*** %s destroyed ***\r\n", [nameArg t r s.mem dev]⟩]⟩
      ∧ DevicesOk t s' none (Function.update live r ((live r).erase dev))
      ∧ s'.uuidCount = s.uuidCount
      ∧ ∀ x, (∀ b ∈ live r, x < b + t.offset r .node ∨ b + t.offset r .node + t.ptrSize ≤ x) →
        (x < dev ∨ dev + r.pool.blockSize.toNat ≤ x) → s'.mem x = s.mem x := by
  have hfuel : (live r).length < fuel := Nat.lt_of_le_of_lt (live_few h r).1 hf
  have hlen : (nodesOf t r (live r)).length < fuel := by
    rw [nodesOf, List.length_map]
    exact hfuel
  obtain ⟨m', head', hremove, _, hm, _⟩ := remove_holds (deviceNodes t r)
    (n := dev + t.offset r .node) (h.lists r) h.nodes hlen
  obtain ⟨res, heq, hok⟩ := deviceDestroy_spec h hf hd
  have hrem : s.remove t fuel r dev
      = some { s with mem := m', list := Function.update s.list r head' } := by
    rw [Devices.remove, hremove]
    rfl
  rw [deviceDestroy, hrem] at heq ⊢
  obtain rfl := Option.some.inj heq
  refine ⟨_, rfl, hok, ?_, fun x hnodes hblock => ?_⟩
  · rw [free_eq]
  · -- first the nodes, then the link in the freed block
    have hx : m' x = s.mem x := by
      refine hm x (fun a ha => ?_)
      obtain ⟨b, hb, rfl⟩ := List.mem_map.mp ha
      exact hnodes b hb
    have hlink : t.ptrSize ≤ r.pool.blockSize.toNat := (cfg_valid t r.pool).link_fits
    rw [free_eq]
    dsimp only
    unfold poolFreeGeneric
    split
    · exact hx
    · split
      · exact hx
      · rw [← hx]
        exact store_agreeOff m' dev t.ptrSize _ x (by omega)

/-- The devices that are left have the records they had. -/
theorem destroy_others {s' : Devices} (h : DevicesOk t s none live) (hd : dev ∈ live r)
    (hmem : ∀ x, (∀ b ∈ live r, x < b + t.offset r .node ∨ b + t.offset r .node + t.ptrSize ≤ x) →
      (x < dev ∨ dev + r.pool.blockSize.toNat ≤ x) → s'.mem x = s.mem x)
    {r' : Registry} {b : Nat} {rec : r'.Record} (hb : b ∈ live r') (hne : r' = r → b ≠ dev)
    (hr : Holds d r' s.mem b rec) : Holds d r' s'.mem b rec := by
  refine hr.congr (fun i hi hnode x hx => hmem x (fun b' hb' => ?_) ?_)
  · -- a node is another member, or another device's
    by_contra hin
    have hx' : (deviceLayout d r).At b' (.field .node) x := by
      refine ⟨?_, ?_⟩
      · show b' + t.offset r .node ≤ x
        omega
      · show x < b' + t.offset r .node + t.ptrSize
        omega
    by_cases hsame : r' = r ∧ b = b'
    · obtain ⟨rfl, rfl⟩ := hsame
      have hnm := field_members (node_mem r')
      exact hnode (Layout.at_unique (L := deviceLayout d r') hi hnm hx hx')
    · have hblock := at_block hi hx
      have hblock' := at_block (field_members (node_mem r)) hx'
      have := h.block_off hb hb' (fun hrr hbb => hsame ⟨hrr, hbb⟩) hblock.1 hblock.2
      omega
  · have hblock := at_block hi hx
    exact h.block_off hb hd hne hblock.1 hblock.2

end

end FwCore.Proof
