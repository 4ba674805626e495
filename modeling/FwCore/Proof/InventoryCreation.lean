import FwCore.Proof.InventoryRep

/-!
# Creation and destruction, on both sides

The four kinds create their devices in the same way, so what a kind adds is a list of
its fields with the values of the new record, every field but the node and each once
(`Covers`). The creating functions are then the inventory's, with the handle that the
pool hands out.
-/

namespace FwCore.Proof

open FwCore Lib

section

variable {t : Target} {d : ButtonTimers t} {w : BspWorld} {inv : Inventory} {r : Registry}
  {dev fuel : Nat} {op : BspOp}

/-- The library and the inventory both take the step, with one answer. -/
def Refined (d : ButtonTimers t) (fuel : Nat) (w : BspWorld) (inv : Inventory) (op : BspOp) :
    Prop :=
  ∃ w' answer inv', bspCall d fuel w op = some (w', answer) ∧ inv.Step t op answer inv'
    ∧ Represents d w' inv'

/-- A call that creates nothing does not depend on the handle a new device would get. -/
theorem refined_of {x : Inventory × BspAnswer} {w' : BspWorld}
    (hspec : ∀ fresh, inv.call t fresh op = x) (hcall : bspCall d fuel w op = some (w', x.2))
    (hrep : Represents d w' x.1) : Refined d fuel w inv op := by
  obtain ⟨fresh, h0, hno⟩ := exists_fresh inv.live
  exact ⟨w', x.2, x.1, hcall, ⟨fresh, h0, hno, hspec fresh⟩, hrep⟩

/-! ## The fields of a new device -/

/-- Every field of a kind but the node, once. -/
def Covers (r : Registry) (fs : List Field) : Prop :=
  fs.Nodup ∧ (∀ f ∈ fs, f ∈ r.fields ∧ f ≠ .node) ∧ ∀ f ∈ r.fields, f ≠ .node → f ∈ fs

instance (r : Registry) (fs : List Field) : Decidable (Covers r fs) := by
  unfold Covers
  infer_instance

/-- The assignments of a record to fields; `name` is assigned as a pointer. -/
def assignments (r : Registry) (name : Nat) (rec : r.Record) (fs : List Field) :
    List (Field × Nat) :=
  fs.map fun f => (f, if f = .name then name else recordValue r rec (.field f))

/-- Assigning every field makes the record, if its timers are as the allocation left them. -/
theorem fills_of {fs : List Field} (hfs : Covers r fs) (name : Nat) {rec : r.Record}
    (htimers : ∀ k f, recordValue r rec (.timer k f) = 0) :
    Fills r (assignments r name rec fs) name rec := by
  obtain ⟨hnd, hfields, hall⟩ := hfs
  have hkeys : (assignments r name rec fs).map Prod.fst = fs := by
    rw [assignments, List.map_map]
    exact List.map_id' fs
  refine ⟨fun fv hfv => ?_, by rw [hkeys]; exact hnd, ?_, ?_, fun f v hfv hne => ?_,
    fun i hi hno => ?_⟩
  · obtain ⟨f, hf, rfl⟩ := List.mem_map.mp hfv
    exact (hfields f hf).1
  · rw [hkeys]
    exact fun hm => (hfields _ hm).2 rfl
  · refine List.mem_map.mpr ⟨.name, hall .name (name_mem r) (by decide), ?_⟩
    rw [if_pos rfl]
  · obtain ⟨f', _, heq⟩ := List.mem_map.mp hfv
    obtain ⟨rfl, rfl⟩ := Prod.mk.inj heq
    rw [if_neg hne]
  · rw [hkeys] at hno
    rcases mem_members.mp (data_mem hi) with ⟨f, hf, rfl⟩ | ⟨rfl, k, f, rfl⟩
    · have hnode : f ≠ .node := fun hn => data_node hi (hn ▸ rfl)
      exact absurd rfl (hno f (hall f hf hnode))
    · exact htimers k f

/-! ## The three bodies -/

/-- **`create`**: the pool's handle, and the uuid counted to. -/
theorem create_refined (hR : Represents d w inv) (hf : 64 < fuel) {dop : DeviceOp}
    {mk : Nat → r.Record} {early : List DeviceEvent} {early' : r.Record → List DeviceEvent}
    {report : Mem → Nat → UprintCall} {report' : r.Record → UprintCall} {lowMemory : UprintCall}
    {fields : List (Field × Nat)} {fs : List Field} {name : Nat}
    (hreg : dop.registry = r) (haction : dop.action = .create)
    (hcall : FwCore.deviceCall t fuel w.devices dop
      = deviceCreate t r fuel w.devices fields early report lowMemory)
    (hspec : ∀ fresh, inv.call t fresh (.device dop)
      = inv.create fresh r mk early' report' lowMemory)
    (hname : name < 256 ^ t.ptrSize)
    (hstr : ∀ uuid, recordName r (mk uuid) = t.cstr name)
    (hfs : Covers r fs) (htimers : ∀ uuid k f, recordValue r (mk uuid) (.timer k f) = 0)
    (hfields : ∀ uuid < 256 ^ r.uuidBytes,
      fields ++ [(.uuid, uuid)] = assignments r name (mk uuid) fs)
    (hearly : ∀ uuid, early' (mk uuid) = early)
    (hreport : ∀ m dev rec, Holds d r m dev rec → report m dev = report' rec) :
    Refined d fuel w inv (.device dop) := by
  have hpos : 0 < 256 ^ r.uuidBytes := Nat.pow_pos (by decide)
  have hfills : ∀ uuid < 256 ^ r.uuidBytes,
      Fills r (fields ++ [(.uuid, uuid)]) name (mk uuid) := by
    intro uuid hu
    rw [hfields uuid hu]
    exact fills_of hfs name (htimers uuid)
  have hmem : ∀ fv ∈ fields, fv.1 ∈ r.fields :=
    fun fv hfv => (hfills 0 hpos).fields fv (List.mem_append_left _ hfv)
  rcases deviceCreate_exact hR.ok hf hmem early report lowMemory with
    ⟨hfull, heq⟩ | ⟨hroom, k, dev, s', hk, hfree, htaken, heq, hcount, hnew⟩
  · -- no block: both say so
    have hfull' : inv.full r := (hR.full r).mpr hfull
    have hx : ∀ fresh, inv.call t fresh (.device dop) = inv.say (.handle 0) [lowMemory] := by
      intro fresh
      rw [hspec, Inventory.create, if_pos hfull']
    refine refined_of hx ?_ hR
    simp [bspCall, hcall, heq, haction, hreg, liveAfter, DeviceAction.ret, Inventory.say]
  · have hroom' : ¬inv.full r := fun hfull => hroom ((hR.full r).mp hfull)
    have huuid : inv.nextUuid r = (w.devices.uuidCount r + k) % 256 ^ r.uuidBytes :=
      hR.nextUuid hk hfree htaken
    have hlt : inv.nextUuid r < 256 ^ r.uuidBytes := by
      rw [huuid]
      exact Nat.mod_lt _ hpos
    rw [← huuid] at hcount hnew
    obtain ⟨next, hmem'⟩ := hnew.mem
    have hholds : Holds d r s'.mem dev (mk (inv.nextUuid r)) := by
      rw [hmem']
      exact holds_new w.devices.mem (hfills _ hlt) hname (hstr _).symm next
    have hrep : Represents d ⟨s', w.pins, Function.update w.live r (dev :: w.live r)⟩
        ((inv.setCount r ((inv.nextUuid r + 1) % 256 ^ r.uuidBytes)).add r dev
          (mk (inv.nextUuid r))) :=
      hR.add hnew (hfills _ hlt).fields hholds rfl rfl (by rw [hcount, ← hR.counts]; rfl) rfl
    refine ⟨_, ⟨.handle dev, early ++ [.uprint (report' (mk (inv.nextUuid r)))]⟩, _, ?_,
      ⟨dev, hnew.ne_zero, fun r' => ?_, ?_⟩, hrep⟩
    · simp [bspCall, hcall, heq, haction, hreg, liveAfter, DeviceAction.ret, hnew.ne_zero,
        hreport _ _ _ hholds]
    · rw [hR.live]
      exact hnew.fresh r'
    · rw [hspec, Inventory.create, if_neg hroom']
      dsimp only
      rw [hearly]

/-- **`createWithUuid`**: a uuid in use is refused before the pool is asked. -/
theorem createWithUuid_refined (hR : Represents d w inv) (hf : 64 < fuel) {dop : DeviceOp}
    {rec : r.Record} {early : List DeviceEvent} {early' : r.Record → List DeviceEvent}
    {report : Mem → Nat → UprintCall} {report' : r.Record → UprintCall}
    {lowMemory duplicate : UprintCall} {fields : List (Field × Nat)} {fs : List Field} {name : Nat}
    (hreg : dop.registry = r) (haction : dop.action = .createWithUuid (recordUuid r rec))
    (hcall : FwCore.deviceCall t fuel w.devices dop
      = deviceCreateWithUuid t r fuel w.devices (recordUuid r rec) fields early report lowMemory
          duplicate)
    (hspec : ∀ fresh, inv.call t fresh (.device dop)
      = inv.createWithUuid fresh r rec early' report' lowMemory duplicate)
    (hname : name < 256 ^ t.ptrSize) (hstr : recordName r rec = t.cstr name)
    (hfs : Covers r fs) (htimers : ∀ k f, recordValue r rec (.timer k f) = 0)
    (hfields : fields = assignments r name rec fs) (hearly : early' rec = early)
    (hreport : ∀ m dev rec, Holds d r m dev rec → report m dev = report' rec) :
    Refined d fuel w inv (.device dop) := by
  have hfills : Fills r fields name rec := by
    rw [hfields]
    exact fills_of hfs name htimers
  have hu : recordUuid r rec < 256 ^ r.uuidBytes := by
    have hlt := recordValue_lt d r rec (uuid_data r)
    rw [recordValue_uuid] at hlt
    exact hlt
  have hm : (Field.uuid, recordUuid r rec) ∈ fields := by
    rw [hfields, assignments]
    refine List.mem_map.mpr ⟨.uuid, hfs.2.2 .uuid (uuid_mem r) (by decide), ?_⟩
    rw [if_neg (by decide), recordValue_uuid]
  rcases deviceCreateWithUuid_exact hR.ok hf hu hfills.fields hfills.nodup hm early report lowMemory
    duplicate with ⟨htaken, heq⟩ | ⟨hfree, hfull, heq⟩ | ⟨hfree, hroom, dev, s', heq, hcount, hnew⟩
  · have hx : ∀ fresh, inv.call t fresh (.device dop) = inv.say (.handle 0) [duplicate] := by
      intro fresh
      rw [hspec, Inventory.createWithUuid, hR.uuids, if_pos htaken]
    refine refined_of hx ?_ hR
    simp [bspCall, hcall, heq, haction, hreg, liveAfter, DeviceAction.ret, Inventory.say]
  · have hfull' : inv.full r := (hR.full r).mpr hfull
    have hx : ∀ fresh, inv.call t fresh (.device dop) = inv.say (.handle 0) [lowMemory] := by
      intro fresh
      rw [hspec, Inventory.createWithUuid, hR.uuids, if_neg hfree, if_pos hfull']
    refine refined_of hx ?_ hR
    simp [bspCall, hcall, heq, haction, hreg, liveAfter, DeviceAction.ret, Inventory.say]
  · have hroom' : ¬inv.full r := fun hfull => hroom ((hR.full r).mp hfull)
    obtain ⟨next, hmem'⟩ := hnew.mem
    have hholds : Holds d r s'.mem dev rec := by
      rw [hmem']
      exact holds_new w.devices.mem hfills hname hstr.symm next
    have hrep : Represents d ⟨s', w.pins, Function.update w.live r (dev :: w.live r)⟩
        (inv.add r dev rec) :=
      hR.add hnew hfills.fields hholds rfl rfl (hR.counts.trans hcount.symm) rfl
    refine ⟨_, ⟨.handle dev, early ++ [.uprint (report' rec)]⟩, _, ?_,
      ⟨dev, hnew.ne_zero, fun r' => ?_, ?_⟩, hrep⟩
    · simp [bspCall, hcall, heq, haction, hreg, liveAfter, DeviceAction.ret, hnew.ne_zero,
        hreport _ _ _ hholds]
    · rw [hR.live]
      exact hnew.fresh r'
    · rw [hspec, Inventory.createWithUuid, hR.uuids, if_neg hfree, if_neg hroom', hearly]

/-- **`destroy`**, of the kinds that are just unlinked and freed. -/
theorem destroy_refined (hR : Represents d w inv) (hf : 64 < fuel) {dop : DeviceOp}
    (hreg : dop.registry = r) (haction : dop.action = .destroy dev)
    (hal : dev = 0 ∨ dev ∈ w.live r)
    (hcall : FwCore.deviceCall t fuel w.devices dop
      = if dev = 0 then some ⟨0, w.devices, []⟩ else deviceDestroy t r fuel w.devices dev)
    (hspec : ∀ fresh, inv.call t fresh (.device dop) = inv.destroy r dev (fun _ => [])) :
    Refined d fuel w inv (.device dop) := by
  rcases hR.given hal with ⟨rfl, hnone⟩ | ⟨h0, hd, rec, hrec, hholds⟩
  · have hx : ∀ fresh, inv.call t fresh (.device dop) = inv.say .void [] := by
      intro fresh
      rw [hspec, Inventory.destroy, Inventory.on, hnone]
    have hno : (0 : Nat) ∉ w.live r := fun hm => hR.ok.live_ne_zero hm rfl
    refine refined_of hx ?_ hR
    simp [bspCall, hcall, haction, hreg, liveAfter, DeviceAction.ret, Inventory.say,
      List.erase_of_not_mem hno]
  · obtain ⟨s', heq, hrep⟩ := hR.remove hf hd
    have hx : ∀ fresh, inv.call t fresh (.device dop) = (inv.remove r dev, ⟨.void,
        [.uprint ⟨"*** %s destroyed ***\r\n", [.str (recordName r rec)]⟩]⟩) := by
      intro fresh
      rw [hspec, Inventory.destroy, Inventory.on, hrec]
      rfl
    refine refined_of hx ?_ hrep
    simp [bspCall, hcall, heq, haction, hreg, liveAfter, DeviceAction.ret, h0, hholds.nameArg]

/-- **`output_destroy`**: the output is turned off first, through the struct. -/
theorem outputDestroy_refined (hR : Represents d w inv) (hf : 64 < fuel) {out : Nat}
    (hal : out = 0 ∨ out ∈ w.live .output) :
    Refined d fuel w inv (.device (.outputDestroy out)) := by
  rcases hR.given hal with ⟨rfl, hnone⟩ | ⟨h0, hd, rec, hrec, hholds⟩
  · have hx : ∀ fresh, inv.call t fresh (.device (.outputDestroy 0)) = inv.say .void [] := by
      intro fresh
      show inv.destroy .output 0 _ = _
      rw [Inventory.destroy, Inventory.on, hnone]
    have hno : (0 : Nat) ∉ w.live .output := fun hm => hR.ok.live_ne_zero hm rfl
    refine refined_of hx ?_ hR
    simp [bspCall, FwCore.deviceCall, outputDestroy, DeviceOp.action, DeviceOp.registry, liveAfter,
      DeviceAction.ret, Inventory.say, List.erase_of_not_mem hno]
  · -- off, and then as every kind
    obtain ⟨m', hoff, hedit⟩ := outputSet_eq hholds h0 0
    have hR' := hR.edit (f := (Output.set · 0)) hrec hedit
    obtain ⟨s', heq, hrep⟩ := hR'.remove hf hd
    have hafter := hedit.holds hholds
    have hpwm : outputPwmId t { w.devices with mem := m' } out = (Output.set rec 0).pwmId :=
      outputPwmId_eq hafter
    have hname : nameArg t .output m' out = .str rec.name := hafter.nameArg
    have hremove : (inv.edit .output out (Output.set · 0)).remove .output out
        = inv.remove .output out := by
      simp [Inventory.edit, Inventory.remove]
    rw [hremove] at hrep
    have hx : ∀ fresh, inv.call t fresh (.device (.outputDestroy out))
        = (inv.remove .output out, ⟨.void, [.pwmSetDuty rec.pwmId 0, .pwmDeinit rec.pwmId,
          .uprint ⟨"*** %s destroyed ***\r\n", [.str rec.name]⟩]⟩) := by
      intro fresh
      show inv.destroy .output out _ = _
      rw [Inventory.destroy, Inventory.on, hrec]
      rfl
    refine refined_of hx ?_ hrep
    dsimp only at heq
    rw [hname] at heq
    simp [bspCall, FwCore.deviceCall, outputDestroy, h0, outputOff, hoff, hpwm, heq, Output.set,
      DeviceOp.action, DeviceOp.registry, liveAfter, DeviceAction.ret]
    decide

end

end FwCore.Proof
