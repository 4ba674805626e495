import FwCore.Bsp.Alone
import FwCore.Proof.InventoryRefines

/-!
# A device keeps to itself

What a call can do to the devices is said once (`Change`): it may change the device it
is given, add a new one, or remove the one it is told to. Every device of the library is
therefore a part that keeps to itself, and `Component.life` says what its struct holds.
-/

namespace FwCore.Proof

open FwCore Lib

section

variable {t : Target} {inv : Inventory} {fresh : Nat} {op : BspOp} {r : Registry} {dev : Nat}

/-! ## What a call can do -/

/-- What a call can do to the devices. -/
inductive Change (t : Target) (inv : Inventory) (fresh : Nat) (op : BspOp) :
    Inventory × BspAnswer → Prop where
  /-- It changes at most what is known of the device it is given. -/
  | given {inv' : Inventory} {answer : BspAnswer}
      (same : ∀ r dev, ¬ op.IsFor r dev → inv'.device r dev = inv.device r dev)
      (there : ∀ r dev, (inv'.device r dev).isSome = (inv.device r dev).isSome) :
      Change t inv fresh op (inv', answer)
  /-- There is a new device. -/
  | born {inv' : Inventory} {answer : BspAnswer} (r : Registry) (rec : r.Record)
      (creates : Creates t op r rec) (ret : answer.ret = .handle fresh)
      (device : inv'.device = (inv.add r fresh rec).device) : Change t inv fresh op (inv', answer)
  /-- A device is no more. -/
  | gone {inv' : Inventory} {answer : BspAnswer} (r : Registry) (dev : Nat)
      (destroys : op.Destroys r dev) (device : inv'.device = (inv.remove r dev).device) :
      Change t inv fresh op (inv', answer)

theorem change_say (ret : BspRet) (calls : List UprintCall) :
    Change t inv fresh op (inv.say ret calls) := .given (fun _ _ _ => rfl) (fun _ _ => rfl)

theorem change_pins (pins : Pins) (answer : BspAnswer) :
    Change t inv fresh op (inv.setPins pins, answer) := .given (fun _ _ _ => rfl) (fun _ _ => rfl)

/-- The pins play no part in it. -/
theorem Change.setPins {inv' : Inventory} {answer answer' : BspAnswer} {pins : Pins}
    (h : Change t inv fresh op (inv', answer)) (hret : answer'.ret = answer.ret) :
    Change t inv fresh op (inv'.setPins pins, answer') := by
  cases h with
  | given same there => exact .given same there
  | born r rec creates ret device => exact .born r rec creates (hret.trans ret) device
  | gone r dev destroys device => exact .gone r dev destroys device

theorem edit_there (r : Registry) (dev : Nat) (f : r.Record → r.Record) (r' : Registry)
    (dev' : Nat) : ((inv.edit r dev f).device r' dev').isSome = (inv.device r' dev').isSome := by
  by_cases h : r' = r ∧ dev' = dev
  · obtain ⟨rfl, rfl⟩ := h
    rw [Inventory.edit_device_self, Option.isSome_map]
  · rw [Inventory.edit_device_other (fun hr hd => h ⟨hr, hd⟩)]

theorem change_edit (hop : op.IsFor r dev) (f : r.Record → r.Record) (answer : BspAnswer) :
    Change t inv fresh op (inv.edit r dev f, answer) := by
  refine .given (fun r' dev' hne => ?_) (edit_there r dev f)
  refine Inventory.edit_device_other (fun hr hd => hne ?_) f
  rw [hr, hd]
  exact hop

theorem change_on (null : BspRet) {f : r.Record → Inventory × BspAnswer}
    (h : ∀ rec, inv.device r dev = some rec → Change t inv fresh op (f rec)) :
    Change t inv fresh op (inv.on r dev null f) := by
  rw [Inventory.on]
  cases hrec : inv.device r dev with
  | none => exact change_say null []
  | some rec => exact h rec hrec

theorem change_create {mk : Nat → r.Record} {early : r.Record → List DeviceEvent}
    {report : r.Record → UprintCall} {lowMemory : UprintCall}
    (h : ∀ uuid, Creates t op r (mk uuid)) :
    Change t inv fresh op (inv.create fresh r mk early report lowMemory) := by
  rw [Inventory.create]
  by_cases hfull : inv.full r
  · rw [if_pos hfull]
    exact change_say _ _
  · rw [if_neg hfull]
    exact .born r _ (h _) rfl rfl

theorem change_createWithUuid {rec : r.Record} {early : r.Record → List DeviceEvent}
    {report : r.Record → UprintCall} {lowMemory duplicate : UprintCall} (h : Creates t op r rec) :
    Change t inv fresh op (inv.createWithUuid fresh r rec early report lowMemory duplicate) := by
  rw [Inventory.createWithUuid]
  by_cases hdup : recordUuid r rec ∈ inv.uuids r
  · rw [if_pos hdup]
    exact change_say _ _
  · rw [if_neg hdup]
    by_cases hfull : inv.full r
    · rw [if_pos hfull]
      exact change_say _ _
    · rw [if_neg hfull]
      exact .born r _ h rfl rfl

theorem change_destroy (hop : op.Destroys r dev) (early : r.Record → List DeviceEvent) :
    Change t inv fresh op (inv.destroy r dev early) :=
  change_on .void fun _ _ => .gone r dev hop rfl

theorem change_device (dop : DeviceOp) :
    Change t inv fresh (.device dop) (inv.deviceCall t fresh dop) := by
  cases dop with
  | ledCreate name pinId =>
      rw [Inventory.deviceCall]
      exact change_create fun uuid => .led name pinId _
  | ledCreateWithUuid name pinId uuid =>
      rw [Inventory.deviceCall]
      exact change_createWithUuid (.ledWithUuid name pinId uuid)
  | ledRgbCreate name pinR pinG pinB =>
      rw [Inventory.deviceCall]
      exact change_create fun uuid => .ledRgb name pinR pinG pinB _
  | ledRgbCreateWithUuid name pinR pinG pinB uuid =>
      rw [Inventory.deviceCall]
      exact change_createWithUuid (.ledRgbWithUuid name pinR pinG pinB uuid)
  | outputCreate name pwmId =>
      rw [Inventory.deviceCall]
      exact change_create fun uuid => .output name pwmId _
  | outputCreateWithUuid name pwmId uuid =>
      rw [Inventory.deviceCall]
      exact change_createWithUuid (.outputWithUuid name pwmId uuid)
  | buttonCreate name pinId debounceMs holdTimeMs =>
      rw [Inventory.deviceCall]
      exact change_create fun uuid => .button name pinId debounceMs holdTimeMs _
  | buttonCreateWithUuid name pinId debounceMs holdTimeMs uuid =>
      rw [Inventory.deviceCall]
      exact change_createWithUuid (.buttonWithUuid name pinId debounceMs holdTimeMs uuid)
  | ledDestroy led =>
      refine change_destroy (r := .led) ?_ _
      exact ⟨rfl, rfl⟩
  | ledRgbDestroy led =>
      refine change_destroy (r := .ledRgb) ?_ _
      exact ⟨rfl, rfl⟩
  | outputDestroy out =>
      refine change_destroy (r := .output) ?_ _
      exact ⟨rfl, rfl⟩
  | buttonDestroy btn =>
      refine change_destroy (r := .button) ?_ _
      exact ⟨rfl, rfl⟩

/-- **What a call can do.** -/
theorem call_change (t : Target) (inv : Inventory) (fresh : Nat) (op : BspOp) :
    Change t inv fresh op (inv.call t fresh op) := by
  cases op with
  | device dop => exact change_device dop
  | ledRgbControl led call =>
      refine change_on _ fun rec _ => ?_
      refine Change.setPins (change_edit ?_ _ _) rfl
      exact rfl
  | ledInvertLogic led | ledRgbInvertLogic led | outputSet out dutyPercent | outputOn out
  | outputOff out | buttonInvertLogic btn | buttonUpdate btn env | buttonGetEvent btn =>
      refine change_on _ fun rec _ => change_edit ?_ _ _
      exact rfl
  | ledTurnOn led status | ledTurnOff led status | ledToggle led status =>
      exact change_on _ fun _ _ => change_pins _ _
  | ledDisplayInfo led | ledRgbGetColor led | ledRgbDisplayInfo led | outputGetDuty out
  | outputDisplayInfo out | buttonIsPressed btn | buttonDisplayInfo btn =>
      exact change_on _ fun _ _ => change_say _ _
  | ledGetByUuid uuid | ledDisplayAll | ledRgbGetByUuid uuid | ledRgbDisplayAll
  | outputGetByUuid uuid | outputDisplayAll | buttonGetByUuid uuid | buttonDisplayAll =>
      exact change_say _ _

/-! ## What a call does to one device -/

/-- Of the calls that create and destroy, only a destruction is given a device. -/
theorem destroys_of_device {dop : DeviceOp} (h : (BspOp.device dop).IsFor r dev) :
    (BspOp.device dop).Destroys r dev := by
  rw [BspOp.IsFor, BspOp.handle] at h
  cases ha : dop.action with
  | create | createWithUuid uuid =>
      rw [ha] at h
      cases h
  | destroy d =>
      rw [ha] at h
      obtain ⟨hr, hd⟩ := Prod.mk.inj (Option.some.inj h)
      exact ⟨hr, by rw [ha, hd]⟩

/-- A call that is given a device does to it what it would do alone. -/
theorem call_given {rec : r.Record} (hop : op.IsFor r dev) (hne : ¬ op.Destroys r dev)
    (hrec : inv.device r dev = some rec) :
    (inv.call t fresh op).1.device r dev = some (aloneCall r (rec, inv.pins) op).1.1
      ∧ (inv.call t fresh op).1.pins = (aloneCall r (rec, inv.pins) op).1.2
      ∧ (inv.call t fresh op).2 = (aloneCall r (rec, inv.pins) op).2 := by
  cases op with
  | device dop =>
      exact absurd (destroys_of_device hop) hne
  | ledGetByUuid uuid | ledDisplayAll | ledRgbGetByUuid uuid | ledRgbDisplayAll
  | outputGetByUuid uuid | outputDisplayAll | buttonGetByUuid uuid | buttonDisplayAll =>
      exact nomatch hop
  | ledInvertLogic led | ledRgbInvertLogic led | buttonInvertLogic btn | buttonUpdate btn env
  | buttonGetEvent btn =>
      obtain ⟨rfl, rfl⟩ := Prod.mk.inj (Option.some.inj hop)
      simp only [Inventory.call, Inventory.on, hrec, Inventory.edit_device_self, Option.map_some]
      exact ⟨rfl, rfl, rfl⟩
  | outputSet out dutyPercent | outputOn out | outputOff out =>
      obtain ⟨rfl, rfl⟩ := Prod.mk.inj (Option.some.inj hop)
      simp only [Inventory.call, Inventory.setOutput, Inventory.on, hrec,
        Inventory.edit_device_self, Option.map_some]
      exact ⟨rfl, rfl, rfl⟩
  | ledRgbControl led call =>
      obtain ⟨rfl, rfl⟩ := Prod.mk.inj (Option.some.inj hop)
      simp only [Inventory.call, Inventory.on, hrec]
      refine ⟨?_, rfl, rfl⟩
      rw [Inventory.setPins_device, Inventory.edit_device_self, hrec]
      rfl
  | ledTurnOn led status | ledTurnOff led status | ledToggle led status | ledDisplayInfo led
  | ledRgbGetColor led | ledRgbDisplayInfo led | outputGetDuty out | outputDisplayInfo out
  | buttonIsPressed btn | buttonDisplayInfo btn =>
      obtain ⟨rfl, rfl⟩ := Prod.mk.inj (Option.some.inj hop)
      simp only [Inventory.call, Inventory.on, hrec]
      exact ⟨hrec, rfl, rfl⟩

/-- A call that is not given a device leaves it, if its handle is not new. -/
theorem call_kept {rec : r.Record} (hop : ¬ op.IsFor r dev) (hfresh : ∀ r, fresh ∉ inv.live r)
    (hrec : inv.device r dev = some rec) : (inv.call t fresh op).1.device r dev = some rec := by
  have hchange := call_change t inv fresh op
  revert hchange
  generalize inv.call t fresh op = res
  intro hchange
  cases hchange with
  | given same there => rw [same r dev hop, hrec]
  | born r' rec' creates ret device =>
      rw [device, Inventory.add_device_other, hrec]
      rintro rfl rfl
      exact hfresh r (Inventory.mem_live hrec)
  | gone r' dev' destroys device =>
      rw [device, Inventory.remove_device_other, hrec]
      rintro rfl rfl
      exact hop destroys.isFor

/-- A new device is one the call creates, with the handle the call returns. -/
theorem call_born {rec : r.Record} (hnone : inv.device r dev = none)
    (hrec : (inv.call t fresh op).1.device r dev = some rec) :
    Creates t op r rec ∧ (inv.call t fresh op).2.ret = .handle dev := by
  have hchange := call_change t inv fresh op
  revert hchange hrec
  generalize inv.call t fresh op = res
  intro hrec hchange
  cases hchange with
  | given same there =>
      have := there r dev
      rw [hrec, hnone] at this
      cases this
  | born r' rec' creates ret device =>
      rw [device] at hrec
      by_cases hsame : r = r' ∧ dev = fresh
      · obtain ⟨rfl, rfl⟩ := hsame
        rw [Inventory.add_device_self] at hrec
        rw [← Option.some.inj hrec]
        exact ⟨creates, ret⟩
      · rw [Inventory.add_device_other (fun hr hd => hsame ⟨hr, hd⟩), hnone] at hrec
        cases hrec
  | gone r' dev' destroys device =>
      rw [device] at hrec
      by_cases hsame : r = r' ∧ dev = dev'
      · obtain ⟨rfl, rfl⟩ := hsame
        rw [Inventory.remove_device_self] at hrec
        cases hrec
      · rw [Inventory.remove_device_other (fun hr hd => hsame ⟨hr, hd⟩), hnone] at hrec
        cases hrec

/-- A device is gone once it is destroyed. -/
theorem call_gone (hop : op.Destroys r dev) : (inv.call t fresh op).1.device r dev = none := by
  cases op with
  | device dop =>
      obtain ⟨rfl, ha⟩ := hop
      cases dop <;> cases ha
      all_goals
        simp only [Inventory.call, Inventory.deviceCall, Inventory.destroy, Inventory.on,
          DeviceOp.registry]
        cases hrec : inv.device _ dev with
        | none => exact hrec
        | some rec => exact Inventory.remove_device_self
  | _ => exact hop.elim

/-! ## The pins play no part in what is known of a device -/

theorem ledRgbWrite_status (led : LedRgb) (p q : Pins) (w : RgbWrites) (r g b : Bool) :
    (ledRgbWrite led p w r g b).1 = (ledRgbWrite led q w r g b).1 := by
  unfold ledRgbWrite ioWrite
  dsimp only
  split
  · rfl
  · split <;> rfl

theorem ledRgbSet_pins (led : LedRgb) (p q : Pins) (w : RgbWrites) (color : LedRgbColor) :
    (ledRgbSet led p w color).led = (ledRgbSet led q w color).led
      ∧ (ledRgbSet led p w color).status = (ledRgbSet led q w color).status := by
  unfold ledRgbSet
  dsimp only
  rw [ledRgbWrite_status led p q]
  split <;> exact ⟨rfl, rfl⟩

theorem ledRgbCall_pins (led : LedRgb) (p q : Pins) (call : RgbCall) :
    (ledRgbCall led p call).led = (ledRgbCall led q call).led
      ∧ (ledRgbCall led p call).status = (ledRgbCall led q call).status := by
  rw [ledRgbCall_eq, ledRgbCall_eq]
  exact ledRgbSet_pins led p q call.writes _

theorem aloneCall_pins (rec : r.Record) (p q : Pins) (op : BspOp) :
    (aloneCall r (rec, p) op).1.1 = (aloneCall r (rec, q) op).1.1
      ∧ (aloneCall r (rec, p) op).2 = (aloneCall r (rec, q) op).2 := by
  cases r with
  | led => cases op <;> exact ⟨rfl, rfl⟩
  | ledRgb =>
      cases op with
      | ledRgbControl led call =>
          obtain ⟨hled, hstatus⟩ := ledRgbCall_pins rec.led p q call
          simp only [aloneCall, RgbLed.call, hled, hstatus, and_self]
      | _ => exact ⟨rfl, rfl⟩
  | output => exact ⟨rfl, rfl⟩
  | button => exact ⟨rfl, rfl⟩

/-- A device alone, whatever the pins. -/
def recordCall (r : Registry) (rec : r.Record) (op : BspOp) : r.Record × BspAnswer :=
  ((aloneCall r (rec, fun _ => ioPinLow) op).1.1, (aloneCall r (rec, fun _ => ioPinLow) op).2)

theorem runOwn_record (pins : Pins) (rec : r.Record) (ops : List BspOp) :
    (runOwn (aloneCall r) (rec, pins) ops).1.1 = (runOwn (recordCall r) rec ops).1
      ∧ (runOwn (aloneCall r) (rec, pins) ops).2 = (runOwn (recordCall r) rec ops).2 := by
  induction ops generalizing rec pins with
  | nil => exact ⟨rfl, rfl⟩
  | cons op ops ih =>
      obtain ⟨hrec, hans⟩ := aloneCall_pins rec pins (fun _ => ioPinLow) op
      obtain ⟨hrun, hrest⟩ := ih (aloneCall r (rec, pins) op).1.2 (recordCall r rec op).1
      rw [recordCall, ← hrec] at hrun hrest
      simp only [runOwn]
      rw [recordCall, ← hrec, ← hans]
      exact ⟨hrun, by rw [hrest]⟩

/-! ## A device is a part that keeps to itself -/

/-- A device, and what is known of it. -/
theorem device_component (t : Target) (r : Registry) (dev : Nat) :
    Component (Inventory.Step t) (fun inv rec => inv.device r dev = some rec)
      (BspOp.IsFor r dev) (BspOp.Destroys r dev)
      (fun op answer rec => Creates t op r rec ∧ answer.ret = .handle dev) (recordCall r) where
  birth := by
    rintro a b op answer rec ⟨fresh, _, _, hcall⟩ hnone hrec
    have hnew : (a.call t fresh op).1.device r dev = some rec := by
      rw [hcall]
      exact hrec
    have h := call_born (Option.eq_none_iff_forall_ne_some.mpr hnone) hnew
    rwa [hcall] at h
  given := by
    rintro a b op answer rec ⟨fresh, _, _, hcall⟩ hrec hop hne
    have hgiven : _ ∧ _ ∧ (a.call t fresh op).2 = _ := call_given hop hne hrec
    obtain ⟨hdev, _, hans⟩ := hgiven
    rw [hcall] at hdev hans
    obtain ⟨hrec', hans'⟩ := aloneCall_pins rec a.pins (fun _ => ioPinLow) op
    rw [hrec'] at hdev
    rw [hans'] at hans
    exact ⟨hdev, hans⟩
  kept := by
    rintro a b op answer rec ⟨fresh, _, hfresh, hcall⟩ hrec hop
    have h := call_kept (t := t) hop hfresh hrec
    rwa [hcall] at h
  death := by
    rintro a b op answer rec ⟨fresh, _, _, hcall⟩ hop hrec
    have h : (a.call t fresh op).1.device r dev = none := call_gone hop
    rw [hcall, hrec] at h
    cases h

/-- **Where a device comes from**: it is new, or it was there and a call may have changed it. -/
theorem step_device {inv' : Inventory} {answer : BspAnswer} {rec' : r.Record}
    (hs : Inventory.Step t inv op answer inv') (hrec' : inv'.device r dev = some rec') :
    (Creates t op r rec' ∧ answer.ret = .handle dev)
      ∨ ∃ rec, inv.device r dev = some rec ∧ (rec' = rec ∨ rec' = (recordCall r rec op).1) := by
  have hC := device_component t r dev
  cases hrec : inv.device r dev with
  | none =>
      refine Or.inl (hC.birth hs (fun rec h => ?_) hrec')
      rw [hrec] at h
      cases h
  | some rec =>
      refine Or.inr ⟨rec, rfl, ?_⟩
      by_cases hop : op.IsFor r dev
      · by_cases hgone : op.Destroys r dev
        · exact absurd hrec' (hC.death hs hgone)
        · exact Or.inr (Option.some.inj (hrec'.symm.trans (hC.given hs hrec hop hgone).1))
      · exact Or.inl (Option.some.inj (hrec'.symm.trans (hC.kept hs hrec hop)))

theorem no_device (pins : Pins) (rec : r.Record) :
    ¬ (Inventory.empty pins).device r dev = some rec := by
  intro h
  cases h

/-- The life of a live device, from the call that created it on. -/
def LivesAlone (d : ButtonTimers t) (ops : List BspOp) (answers : List BspAnswer) (w : BspWorld)
    (r : Registry) (dev : Nat) : Prop :=
  ∃ before op after as₁ a as₂ new,
    ops = before ++ op :: after ∧ answers = as₁ ++ a :: as₂ ∧ before.length = as₁.length
    ∧ Creates t op r new ∧ a.ret = .handle dev ∧ (∀ op ∈ after, ¬ op.Destroys r dev)
    ∧ ∀ pins₀, Holds d r w.devices.mem dev
        (runOwn (aloneCall r) (new, pins₀) (after.filter (BspOp.IsFor r dev ·))).1.1
      ∧ answersTo (BspOp.IsFor r dev) after as₂
        = (runOwn (aloneCall r) (new, pins₀) (after.filter (BspOp.IsFor r dev ·))).2

/-- A run, and the lives of the devices that are there in the end. -/
theorem lives_alone (d : ButtonTimers t) (m : Mem) (pins : Pins) (fuel : Nat)
    (hf : 64 < fuel) (ops : List BspOp)
    (hal : AllowedAll (bspCall d fuel) (BspAllowed t) (BspWorld.start t m pins) ops) :
    ∃ w answers, bspRun d fuel (BspWorld.start t m pins) ops = some (w, answers)
      ∧ ∀ r, ∀ dev ∈ w.live r, LivesAlone d ops answers w r dev := by
  obtain ⟨w, answers, inv, hrun, htrace, hR⟩ :=
    (bsp_simulates d hf).run ops (represents_start d m pins) hal
  refine ⟨w, answers, hrun, fun r dev hdev => ?_⟩
  obtain ⟨rec, hrec, hholds⟩ := hR.device hdev
  obtain ⟨rec', hrec', before, op, after, as₁, a, as₂, new, hops, hans, hlen, _, ⟨hcr, hret⟩, hends,
    halone⟩ := (device_component t r dev).life (no_device pins) htrace hrec
  obtain rfl : rec = rec' := Option.some.inj (hrec.symm.trans hrec')
  refine ⟨before, op, after, as₁, a, as₂, new, hops, hans, hlen, hcr, hret, hends, fun pins₀ => ?_⟩
  obtain ⟨h₁, h₂⟩ := runOwn_record pins₀ new (after.filter (BspOp.IsFor r dev ·))
  rw [h₁, h₂, halone]
  exact ⟨hholds, rfl⟩

/--
**A device keeps to itself.**

After any permitted program, every live device was returned by some creating call of the
program and has not been destroyed since; its struct holds, member by member, what a device
that is created so and is alone on the board ends with when it is given only the calls with
that handle, and the answers to these calls are the ones it would give, pins or no pins.
-/
theorem devices_keep_to_themselves (d : ButtonTimers t) (m : Mem) (pins : Pins) (fuel : Nat)
    (hf : 64 < fuel) (ops : List BspOp)
    (hal : AllowedAll (bspCall d fuel) (BspAllowed t) (BspWorld.start t m pins) ops) :
    ∃ w answers, bspRun d fuel (BspWorld.start t m pins) ops = some (w, answers)
      ∧ ∀ r, ∀ dev ∈ w.live r, ∃ before op after as₁ a as₂ new,
        ops = before ++ op :: after ∧ answers = as₁ ++ a :: as₂ ∧ before.length = as₁.length
        ∧ Creates t op r new ∧ a.ret = .handle dev ∧ (∀ op ∈ after, ¬ op.Destroys r dev)
        ∧ ∀ pins₀, Holds d r w.devices.mem dev
            (runOwn (aloneCall r) (new, pins₀) (after.filter (BspOp.IsFor r dev ·))).1.1
          ∧ answersTo (BspOp.IsFor r dev) after as₂
            = (runOwn (aloneCall r) (new, pins₀) (after.filter (BspOp.IsFor r dev ·))).2 :=
  lives_alone d m pins fuel hf ops hal

end

/-- Every device of the light switch is some call's, and holds what its own calls make of it. -/
theorem devices_keep_to_themselves_switch :
    ∃ w answers, bspRun arm32Timers 65 (BspWorld.start arm32 (fun _ => 0xAB) (fun _ => 0))
        lightSwitch = some (w, answers)
      ∧ ∀ r, ∀ dev ∈ w.live r, ∃ op ∈ lightSwitch, ∃ (new : r.Record) (after : List BspOp),
        Creates arm32 op r new
        ∧ Holds arm32Timers r w.devices.mem dev
          (runOwn (aloneCall r) (new, fun _ => 0) (after.filter (BspOp.IsFor r dev ·))).1.1 := by
  obtain ⟨w, answers, hrun, hlive⟩ := devices_keep_to_themselves arm32Timers (fun _ => 0xAB)
    (fun _ => 0) 65 (by decide) lightSwitch lightSwitch_allowed
  refine ⟨w, answers, hrun, fun r dev hdev => ?_⟩
  obtain ⟨before, op, after, as₁, a, as₂, new, hops, _, _, hcr, _, _, halone⟩ := hlive r dev hdev
  exact ⟨op, by rw [hops]; simp, new, after, hcr, (halone (fun _ => 0)).1⟩

end FwCore.Proof
