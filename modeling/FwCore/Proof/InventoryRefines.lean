import FwCore.Proof.InventoryCreation

/-!
# The library keeps an inventory

Every function of `bsp/` refines its counterpart on the inventory: from a world that
represents an inventory it returns, answers what the inventory answers, makes the same
messages, PWM calls and pin writes, and ends in a world that represents the inventory
afterwards. With `Simulates.run` that is so of whole programs.
-/

namespace FwCore.Proof

open FwCore Lib

section

variable {t : Target} {d : ButtonTimers t} {w : BspWorld} {inv : Inventory} {r : Registry}
  {dev fuel : Nat} {op : BspOp}

/-! ## Calls of one sort -/

/-- A call that changes nothing. -/
theorem refined_say (hR : Represents d w inv) {ret : BspRet} {calls : List UprintCall}
    (hspec : ∀ fresh, inv.call t fresh op = inv.say ret calls)
    (hcall : bspCall d fuel w op = some (w.say ret calls)) : Refined d fuel w inv op :=
  refined_of hspec hcall hR

/-- A call that edits a device. -/
theorem refined_edit (hR : Represents d w inv) {rec : r.Record} {f : r.Record → r.Record}
    (hrec : inv.device r dev = some rec) {m' : Mem} {answer : BspAnswer}
    (hedit : Edits d r dev w.devices.mem m' rec (f rec))
    (hspec : ∀ fresh, inv.call t fresh op = (inv.edit r dev f, answer))
    (hcall : bspCall d fuel w op
      = some ({ w with devices := { w.devices with mem := m' } }, answer)) :
    Refined d fuel w inv op :=
  refined_of hspec hcall (hR.edit hrec hedit)

/-- A call that drives pins. -/
theorem refined_pins (hR : Represents d w inv) {pins : Pins} {answer : BspAnswer}
    (hspec : ∀ fresh, inv.call t fresh op = (inv.setPins pins, answer))
    (hcall : bspCall d fuel w op = some ({ w with pins := pins }, answer)) :
    Refined d fuel w inv op :=
  refined_of hspec hcall (hR.setPins pins)

/-- A call that looks a uuid up. -/
theorem refined_byUuid (hR : Represents d w inv) (hf : 64 < fuel) {uuid : Nat}
    (hspec : ∀ fresh, inv.call t fresh op = inv.say (.handle (inv.byUuid r uuid)) [])
    (hcall : bspCall d fuel w op = (getByUuid t r fuel w.devices uuid).bind
      fun dev => some (w.say (.handle dev) [])) : Refined d fuel w inv op := by
  refine refined_say hR hspec ?_
  rw [hcall, hR.byUuid hf]
  rfl

/-- A call that prints a line for every device. -/
theorem refined_displayAll (hR : Represents d w inv) (hf : 64 < fuel) {f : r.Record → UprintCall}
    (g : Nat → UprintCall) (wrap : List UprintCall → List UprintCall)
    (hspec : ∀ fresh, inv.call t fresh op = inv.say .void (wrap (inv.each r f)))
    (hcall : bspCall d fuel w op
      = ((slistForEach t.ptrSize fuel w.devices.mem (w.devices.list r).first).bind fun its =>
          some (wrap (its.map fun it => g (containerOf t r it)))).bind fun calls =>
            some (w.say .void calls))
    (hfg : ∀ dev rec, Holds d r w.devices.mem dev rec → f rec = g dev) :
    Refined d fuel w inv op := by
  refine refined_say hR hspec ?_
  rw [hcall, forEach_live hR.ok hf r, hR.lines r hfg]
  rfl

/-- A call that is given a handle: null, or a device. -/
theorem refined_on (hR : Represents d w inv) (hal : dev = 0 ∨ dev ∈ w.live r) {null : BspRet}
    {f : r.Record → Inventory × BspAnswer}
    (hspec : ∀ fresh, inv.call t fresh op = inv.on r dev null f)
    (hnull : dev = 0 → bspCall d fuel w op = some (w.say null []))
    (hsome : ∀ rec, dev ≠ 0 → inv.device r dev = some rec → Holds d r w.devices.mem dev rec →
      (∀ fresh, inv.call t fresh op = f rec) → Refined d fuel w inv op) :
    Refined d fuel w inv op := by
  rcases hR.given hal with ⟨h0, hnone⟩ | ⟨h0, _, rec, hrec, h⟩
  · refine refined_say hR (fun fresh => ?_) (hnull h0)
    rw [hspec, Inventory.on, hnone]
  · refine hsome rec h0 hrec h (fun fresh => ?_)
    rw [hspec, Inventory.on, hrec]

/-! ## Creation and destruction -/

theorem device_refined (hR : Represents d w inv) (hf : 64 < fuel) {dop : DeviceOp}
    (hal : BspAllowed t w (.device dop)) : Refined d fuel w inv (.device dop) := by
  obtain ⟨hhandle, hname⟩ := hal
  cases dop with
  | ledCreate name pinId =>
      refine @create_refined _ d w inv .led fuel hR hf _
        (fun uuid => ⟨t.cstr name, pinId, UInt32.ofNat uuid, false⟩) [] (fun _ => []) _ _ _ _
        [.name, .pinId, .inverted, .uuid] name rfl rfl
        (by rw [FwCore.deviceCall]; unfold ledCreate; rfl)
        (fun _ => by rw [Inventory.call, Inventory.deviceCall]) (hname _ rfl)
        (fun _ => rfl) (by decide) (fun _ _ _ => rfl) (fun uuid hu => ?_) (fun _ => rfl)
        (fun m dev rec h => ?_)
      · simp [assignments, recordValue]
        exact (Nat.mod_eq_of_lt hu).symm
      · rw [h.nameArg, h.uuidArg]
        simp [recordName, recordUuid]
  | ledCreateWithUuid name pinId uuid =>
      refine @createWithUuid_refined _ d w inv .led fuel hR hf _
        ⟨t.cstr name, pinId, uuid, false⟩ [] (fun _ => []) _ _ _ _ _
        [.name, .pinId, .uuid, .inverted] name rfl rfl
        (by rw [FwCore.deviceCall]; unfold ledCreateWithUuid; rfl)
        (fun _ => by rw [Inventory.call, Inventory.deviceCall]) (hname _ rfl)
        rfl (by decide) (fun _ _ => rfl) rfl rfl (fun m dev rec h => ?_)
      rw [h.nameArg, h.uuidArg]
      simp [recordName, recordUuid]
  | ledDestroy led =>
      exact destroy_refined hR hf rfl rfl (hhandle (.led, led) rfl) rfl (fun _ => rfl)
  | ledRgbCreate name pinR pinG pinB =>
      refine @create_refined _ d w inv .ledRgb fuel hR hf _
        (fun uuid => ⟨t.cstr name, UInt8.ofNat uuid, .created pinR pinG pinB⟩) [] (fun _ => [])
        _ _ _ _ [.name, .pinR, .pinG, .pinB, .inverted, .currentColor, .uuid] name rfl rfl
        (by rw [FwCore.deviceCall]; unfold ledRgbCreate; rfl)
        (fun _ => by rw [Inventory.call, Inventory.deviceCall]) (hname _ rfl)
        (fun _ => rfl) (by decide) (fun _ _ _ => rfl)
        (fun uuid hu => ?_) (fun _ => rfl) (fun m dev rec h => ?_)
      · simp [assignments, recordValue, LedRgb.created, ledRgbColorOff, LedRgbColor.code]
        exact (Nat.mod_eq_of_lt hu).symm
      · rw [h.nameArg, h.uuidArg]
        simp [recordName, recordUuid]
  | ledRgbCreateWithUuid name pinR pinG pinB uuid =>
      refine @createWithUuid_refined _ d w inv .ledRgb fuel hR hf _
        ⟨t.cstr name, uuid, .created pinR pinG pinB⟩ [] (fun _ => []) _ _ _ _ _
        [.name, .pinR, .pinG, .pinB, .uuid, .inverted, .currentColor] name rfl rfl
        (by rw [FwCore.deviceCall]; unfold ledRgbCreateWithUuid; rfl)
        (fun _ => by rw [Inventory.call, Inventory.deviceCall, uuid8]) (hname _ rfl)
        rfl (by decide) (fun _ _ => rfl) rfl rfl
        (fun m dev rec h => ?_)
      rw [h.nameArg, h.uuidArg]
      simp [recordName, recordUuid]
  | ledRgbDestroy led =>
      exact destroy_refined hR hf rfl rfl (hhandle (.ledRgb, led) rfl) rfl (fun _ => rfl)
  | outputCreate name pwmId =>
      refine @create_refined _ d w inv .output fuel hR hf _
        (fun uuid => ⟨t.cstr name, pwmId, UInt32.ofNat uuid, 0⟩) [.pwmInit pwmId]
        (fun out => [.pwmInit out.pwmId]) _ _ _ _
        [.name, .pwmId, .duty, .uuid] name rfl rfl
        (by rw [FwCore.deviceCall]; unfold outputCreate; rfl)
        (fun _ => by rw [Inventory.call, Inventory.deviceCall]) (hname _ rfl)
        (fun _ => rfl) (by decide) (fun _ _ _ => rfl) (fun uuid hu => ?_) (fun _ => rfl)
        (fun m dev rec h => ?_)
      · simp [assignments, recordValue]
        exact (Nat.mod_eq_of_lt hu).symm
      · rw [h.nameArg]
        rfl
  | outputCreateWithUuid name pwmId uuid =>
      refine @createWithUuid_refined _ d w inv .output fuel hR hf _
        ⟨t.cstr name, pwmId, uuid, 0⟩ [.pwmInit pwmId] (fun out => [.pwmInit out.pwmId]) _ _ _ _ _
        [.name, .pwmId, .uuid, .duty] name rfl rfl
        (by rw [FwCore.deviceCall]; unfold outputCreateWithUuid; rfl)
        (fun _ => by rw [Inventory.call, Inventory.deviceCall]) (hname _ rfl)
        rfl (by decide) (fun _ _ => rfl) rfl rfl (fun m dev rec h => ?_)
      rw [h.nameArg, h.uuidArg]
      simp [recordName, recordUuid]
  | outputDestroy out => exact outputDestroy_refined hR hf (hhandle (.output, out) rfl)
  | buttonCreate name pinId debounceMs holdTimeMs =>
      refine @create_refined _ d w inv .button fuel hR hf _
        (fun uuid => .created (t.cstr name) pinId debounceMs holdTimeMs (UInt32.ofNat uuid)) []
        (fun _ => []) _ _ _ _
        [.name, .pinId, .inverted, .debounceMs, .holdTimeMs, .state, .pendingEvent, .isPressed,
          .uuid] name rfl rfl
        (by rw [FwCore.deviceCall]; unfold buttonCreate; rfl)
        (fun _ => by rw [Inventory.call, Inventory.deviceCall]) (hname _ rfl)
        (fun _ => rfl) (by decide) (fun _ k f => ?_) (fun uuid hu => ?_) (fun _ => rfl)
        (fun m dev rec h => ?_)
      · cases k <;> cases f <;> rfl
      · simp [assignments, recordValue, Button.created, BtnState.code, ButtonEvent.code,
          btnStateIdle, buttonEventNone]
        exact (Nat.mod_eq_of_lt hu).symm
      · rw [h.nameArg]
        rfl
  | buttonCreateWithUuid name pinId debounceMs holdTimeMs uuid =>
      refine @createWithUuid_refined _ d w inv .button fuel hR hf _
        (.created (t.cstr name) pinId debounceMs holdTimeMs uuid) [] (fun _ => []) _ _ _ _ _
        [.name, .pinId, .uuid, .inverted, .debounceMs, .holdTimeMs, .state, .pendingEvent,
          .isPressed] name rfl rfl
        (by rw [FwCore.deviceCall]; unfold buttonCreateWithUuid; rfl)
        (fun _ => by rw [Inventory.call, Inventory.deviceCall]) (hname _ rfl)
        rfl (by decide) (fun k f => ?_) rfl rfl (fun m dev rec h => ?_)
      · cases k <;> cases f <;> rfl
      · rw [h.nameArg, h.uuidArg]
        simp [recordName, recordUuid]
  | buttonDestroy btn =>
      exact destroy_refined hR hf rfl rfl (hhandle (.button, btn) rfl) rfl (fun _ => rfl)

/-! ## Single LED -/

theorem ledInvertLogic_refined (hR : Represents d w inv) (hal : dev = 0 ∨ dev ∈ w.live .led) :
    Refined d fuel w inv (.ledInvertLogic dev) := by
  refine refined_on hR hal (fun _ => rfl) (fun h0 => by subst h0; rfl)
    (fun rec h0 hrec _ hspec => refined_edit hR hrec (edits_ledInverted rec) hspec ?_)
  simp [bspCall, FwCore.ledInvertLogic, BspWorld.put, h0]

theorem ledTurnOn_refined (hR : Represents d w inv) (hal : dev = 0 ∨ dev ∈ w.live .led)
    (status : IoStatus) : Refined d fuel w inv (.ledTurnOn dev status) := by
  refine refined_on hR hal (fun _ => rfl) (fun h0 => by subst h0; rfl)
    (fun rec h0 _ h hspec => refined_pins hR hspec ?_)
  simp only [bspCall, ledTurnOn_eq h h0, hR.pins]
  rfl

theorem ledTurnOff_refined (hR : Represents d w inv) (hal : dev = 0 ∨ dev ∈ w.live .led)
    (status : IoStatus) : Refined d fuel w inv (.ledTurnOff dev status) := by
  refine refined_on hR hal (fun _ => rfl) (fun h0 => by subst h0; rfl)
    (fun rec h0 _ h hspec => refined_pins hR hspec ?_)
  simp only [bspCall, ledTurnOff_eq h h0, hR.pins]
  rfl

theorem ledToggle_refined (hR : Represents d w inv) (hal : dev = 0 ∨ dev ∈ w.live .led)
    (status : IoStatus) : Refined d fuel w inv (.ledToggle dev status) := by
  refine refined_on hR hal (fun _ => rfl) (fun h0 => by subst h0; rfl)
    (fun rec h0 _ h hspec => refined_pins hR hspec ?_)
  simp only [bspCall, ledToggle_eq h h0, hR.pins]
  rfl

theorem ledDisplayInfo_refined (hR : Represents d w inv) (hal : dev = 0 ∨ dev ∈ w.live .led) :
    Refined d fuel w inv (.ledDisplayInfo dev) := by
  refine refined_on hR hal (fun _ => rfl) (fun h0 => by subst h0; rfl)
    (fun rec h0 _ h hspec => refined_say hR hspec ?_)
  simp only [bspCall, FwCore.ledDisplayInfo, if_neg h0, led_args h]

theorem ledDisplayAll_refined (hR : Represents d w inv) (hf : 64 < fuel) :
    Refined d fuel w inv .ledDisplayAll := by
  refine refined_displayAll hR hf (ledDisplayLine t w.devices) id (fun _ => rfl) rfl
    (fun dev rec h => ?_)
  rw [ledDisplayLine, led_args h]

/-! ## RGB LED -/

theorem ledRgbInvertLogic_refined (hR : Represents d w inv) (hal : dev = 0 ∨ dev ∈ w.live .ledRgb) :
    Refined d fuel w inv (.ledRgbInvertLogic dev) := by
  refine refined_on hR hal (fun _ => rfl) (fun h0 => by subst h0; rfl)
    (fun rec h0 hrec _ hspec => refined_edit hR hrec (edits_rgbInverted rec) hspec ?_)
  simp [bspCall, ledRgbInvertLogicAt, BspWorld.put, h0]

theorem ledRgbControl_refined (hR : Represents d w inv) (hal : dev = 0 ∨ dev ∈ w.live .ledRgb)
    (call : RgbCall) : Refined d fuel w inv (.ledRgbControl dev call) := by
  refine refined_on hR hal (fun _ => rfl) (fun h0 => ?_) (fun rec h0 hrec h hspec => ?_)
  · subst h0
    cases hop : call.op <;>
      simp [bspCall, ledRgbControlAt, hop, ledRgbSetAt, ledRgbSetRawAt, ledRgbOffAt,
        ledRgbToggleAt, BspWorld.say]
  · -- the struct is edited, and the pins are driven
    obtain ⟨m', hcontrol, hedit⟩ := ledRgbControlAt_spec h h0 w.pins call
    refine refined_of hspec ?_ ((hR.edit hrec (by rw [hR.pins]; exact hedit)).setPins _)
    simp only [bspCall, hcontrol, hR.pins]

theorem ledRgbGetColor_refined (hR : Represents d w inv) (hal : dev = 0 ∨ dev ∈ w.live .ledRgb) :
    Refined d fuel w inv (.ledRgbGetColor dev) := by
  refine refined_on hR hal (fun _ => rfl) (fun h0 => by subst h0; rfl)
    (fun rec h0 _ h hspec => refined_say hR hspec ?_)
  simp only [bspCall, ledRgbGetColorAt, if_neg h0, ledRgbAt_eq h]
  rfl

theorem ledRgbDisplayInfo_refined (hR : Represents d w inv) (hal : dev = 0 ∨ dev ∈ w.live .ledRgb) :
    Refined d fuel w inv (.ledRgbDisplayInfo dev) := by
  refine refined_on hR hal (fun _ => rfl) (fun h0 => by subst h0; rfl)
    (fun rec h0 _ h hspec => refined_say hR hspec ?_)
  simp only [bspCall, FwCore.ledRgbDisplayInfo, if_neg h0, (ledRgb_args h).1, (ledRgb_args h).2,
    ← ledRgbAt_eq h]
  rfl

theorem ledRgbDisplayAll_refined (hR : Represents d w inv) (hf : 64 < fuel) :
    Refined d fuel w inv .ledRgbDisplayAll := by
  refine refined_displayAll hR hf (ledRgbDisplayLine t w.devices) id (fun _ => rfl) rfl
    (fun dev rec h => ?_)
  rw [ledRgbDisplayLine, (ledRgb_args h).1, (ledRgb_args h).2]

/-! ## Output -/

/-- The three calls that drive an output. -/
theorem setOutput_refined (hR : Represents d w inv) (hal : dev = 0 ∨ dev ∈ w.live .output)
    {dutyPercent : UInt8} (hspec : ∀ fresh, inv.call t fresh op = inv.setOutput dev dutyPercent)
    (hcall : bspCall d fuel w op
      = some ({ w with devices := (FwCore.outputSet t w.devices dev dutyPercent).1 },
        ⟨.void, (FwCore.outputSet t w.devices dev dutyPercent).2⟩)) :
    Refined d fuel w inv op := by
  refine refined_on hR hal hspec (fun h0 => ?_) (fun rec h0 hrec h hspec' => ?_)
  · rw [hcall, FwCore.outputSet, if_pos h0]
    rfl
  · obtain ⟨m', heq, hedit⟩ := outputSet_eq h h0 dutyPercent
    refine refined_edit hR hrec hedit hspec' ?_
    rw [hcall, heq]

theorem outputGetDuty_refined (hR : Represents d w inv) (hal : dev = 0 ∨ dev ∈ w.live .output) :
    Refined d fuel w inv (.outputGetDuty dev) := by
  refine refined_on hR hal (fun _ => rfl) (fun h0 => by subst h0; rfl)
    (fun rec h0 _ h hspec => refined_say hR hspec ?_)
  simp only [bspCall, FwCore.outputGetDuty, if_neg h0, outputDuty_eq h]

theorem outputDisplayInfo_refined (hR : Represents d w inv) (hal : dev = 0 ∨ dev ∈ w.live .output) :
    Refined d fuel w inv (.outputDisplayInfo dev) := by
  refine refined_on hR hal (fun _ => rfl) (fun h0 => by subst h0; rfl)
    (fun rec h0 _ h hspec => refined_say hR hspec ?_)
  simp only [bspCall, FwCore.outputDisplayInfo, if_neg h0, outputArgs_eq h]

theorem outputDisplayAll_refined (hR : Represents d w inv) (hf : 64 < fuel) :
    Refined d fuel w inv .outputDisplayAll := by
  refine refined_displayAll hR hf (outputDisplayLine t w.devices)
    (fun lines => [outputRule] ++ lines ++ [outputRule]) (fun _ => rfl) rfl (fun dev rec h => ?_)
  rw [outputDisplayLine, outputArgs_eq h]

/-! ## Button -/

theorem buttonInvertLogic_refined (hR : Represents d w inv) (hal : dev = 0 ∨ dev ∈ w.live .button) :
    Refined d fuel w inv (.buttonInvertLogic dev) := by
  refine refined_on hR hal (fun _ => rfl) (fun h0 => by subst h0; rfl)
    (fun rec h0 hrec _ hspec => refined_edit hR hrec (edits_btnInverted rec) hspec ?_)
  simp [bspCall, buttonInvertLogicAt, BspWorld.put, h0]

theorem buttonUpdate_refined (hR : Represents d w inv) (hal : dev = 0 ∨ dev ∈ w.live .button)
    (env : ButtonEnv) : Refined d fuel w inv (.buttonUpdate dev env) :=
  refined_on hR hal (fun _ => rfl) (fun h0 => by subst h0; rfl)
    (fun _ h0 hrec h hspec => refined_edit hR hrec (buttonUpdateAt_edits h h0 env) hspec rfl)

theorem buttonGetEvent_refined (hR : Represents d w inv) (hal : dev = 0 ∨ dev ∈ w.live .button) :
    Refined d fuel w inv (.buttonGetEvent dev) := by
  refine refined_on hR hal (fun _ => rfl) (fun h0 => by subst h0; rfl)
    (fun rec h0 hrec h hspec => ?_)
  obtain ⟨hev, hedit⟩ := buttonGetEventAt_spec h h0
  refine refined_edit hR hrec (f := fun rec => (FwCore.buttonGetEvent rec).2) hedit hspec ?_
  simp only [bspCall, BspWorld.put, hev]

theorem buttonIsPressed_refined (hR : Represents d w inv) (hal : dev = 0 ∨ dev ∈ w.live .button) :
    Refined d fuel w inv (.buttonIsPressed dev) := by
  refine refined_on hR hal (fun _ => rfl) (fun h0 => by subst h0; rfl)
    (fun rec h0 _ h hspec => refined_say hR hspec ?_)
  simp only [bspCall, buttonIsPressedAt_eq h h0]

theorem buttonDisplayInfo_refined (hR : Represents d w inv) (hal : dev = 0 ∨ dev ∈ w.live .button) :
    Refined d fuel w inv (.buttonDisplayInfo dev) := by
  refine refined_on hR hal (fun _ => rfl) (fun h0 => by subst h0; rfl)
    (fun rec h0 _ h hspec => refined_say hR hspec ?_)
  simp only [bspCall, buttonDisplayInfoAt_eq h h0]

theorem buttonDisplayAll_refined (hR : Represents d w inv) (hf : 64 < fuel) :
    Refined d fuel w inv .buttonDisplayAll := by
  refine refined_displayAll hR hf (buttonDisplayLine t w.devices) id (fun _ => rfl) rfl
    (fun dev rec h => ?_)
  rw [buttonDisplayLine, h.nameArg, h.uuidArg]
  simp [recordName, recordUuid]

/-! ## All of them -/

/-- **Every call refines its counterpart.** -/
theorem bsp_refined (hR : Represents d w inv) (hf : 64 < fuel) (hal : BspAllowed t w op) :
    Refined d fuel w inv op := by
  cases op with
  | device dop => exact device_refined hR hf hal
  | ledGetByUuid uuid => exact refined_byUuid hR hf (fun _ => rfl) rfl
  | ledInvertLogic led => exact ledInvertLogic_refined hR (hal.1 _ rfl)
  | ledTurnOn led status => exact ledTurnOn_refined hR (hal.1 _ rfl) status
  | ledTurnOff led status => exact ledTurnOff_refined hR (hal.1 _ rfl) status
  | ledToggle led status => exact ledToggle_refined hR (hal.1 _ rfl) status
  | ledDisplayInfo led => exact ledDisplayInfo_refined hR (hal.1 _ rfl)
  | ledDisplayAll => exact ledDisplayAll_refined hR hf
  | ledRgbGetByUuid uuid => exact refined_byUuid hR hf (fun _ => rfl) rfl
  | ledRgbInvertLogic led => exact ledRgbInvertLogic_refined hR (hal.1 _ rfl)
  | ledRgbControl led call => exact ledRgbControl_refined hR (hal.1 _ rfl) call
  | ledRgbGetColor led => exact ledRgbGetColor_refined hR (hal.1 _ rfl)
  | ledRgbDisplayInfo led => exact ledRgbDisplayInfo_refined hR (hal.1 _ rfl)
  | ledRgbDisplayAll => exact ledRgbDisplayAll_refined hR hf
  | outputGetByUuid uuid => exact refined_byUuid hR hf (fun _ => rfl) rfl
  | outputSet out dutyPercent => exact setOutput_refined hR (hal.1 _ rfl) (fun _ => rfl) rfl
  | outputOn out => exact setOutput_refined hR (hal.1 _ rfl) (fun _ => rfl) rfl
  | outputOff out => exact setOutput_refined hR (hal.1 _ rfl) (fun _ => rfl) rfl
  | outputGetDuty out => exact outputGetDuty_refined hR (hal.1 _ rfl)
  | outputDisplayInfo out => exact outputDisplayInfo_refined hR (hal.1 _ rfl)
  | outputDisplayAll => exact outputDisplayAll_refined hR hf
  | buttonGetByUuid uuid => exact refined_byUuid hR hf (fun _ => rfl) rfl
  | buttonInvertLogic btn => exact buttonInvertLogic_refined hR (hal.1 _ rfl)
  | buttonUpdate btn env => exact buttonUpdate_refined hR (hal.1 _ rfl) env
  | buttonGetEvent btn => exact buttonGetEvent_refined hR (hal.1 _ rfl)
  | buttonIsPressed btn => exact buttonIsPressed_refined hR (hal.1 _ rfl)
  | buttonDisplayInfo btn => exact buttonDisplayInfo_refined hR (hal.1 _ rfl)
  | buttonDisplayAll => exact buttonDisplayAll_refined hR hf

/-- The library, with all its memory, is simulated by the inventory. -/
theorem bsp_simulates (d : ButtonTimers t) (hf : 64 < fuel) :
    Simulates (bspCall d fuel) (BspAllowed t) (Inventory.Step t) (Represents d) := by
  intro _ _ _ hR hal
  exact bsp_refined hR hf hal

/--
**The device library keeps an inventory.**

Take any program over LEDs, RGB LEDs, outputs and buttons, from the initialised pools on:
creations, lookups, control and diagnostic calls and destructions in any order, given null
or live handles, over any previous contents of memory. No call gets stuck, and there is a
run of the inventory on the same calls with the same answers, the same messages and PWM
calls and the same pins, which in the end has the records that the structs in memory hold.
-/
theorem devices_refine_inventory (d : ButtonTimers t) (m : Mem) (pins : Pins) (fuel : Nat)
    (hf : 64 < fuel) (ops : List BspOp)
    (hal : AllowedAll (bspCall d fuel) (BspAllowed t) (BspWorld.start t m pins) ops) :
    ∃ w answers inv, bspRun d fuel (BspWorld.start t m pins) ops = some (w, answers)
      ∧ Traces (Inventory.Step t) (Inventory.empty pins) ops answers inv
      ∧ w.live = inv.live ∧ w.pins = inv.pins
      ∧ ∀ r dev rec, inv.device r dev = some rec → Holds d r w.devices.mem dev rec := by
  obtain ⟨w, answers, inv, hrun, htrace, hR⟩ :=
    (bsp_simulates d hf).run ops (represents_start d m pins) hal
  exact ⟨w, answers, inv, hrun, htrace, hR.live.symm, hR.pins.symm, hR.records⟩

end

/-- `simple_timer_t` with natural alignment. -/
def arm32Timer : TimerLayout where
  size := 24
  members := timerMembers
  offset
    | .waitTime => 0
    | .targetTime => 8
    | .autoReset => 16
    | .hasElapsed => 17
  width := TimerMember.width
  inside := by decide
  apart := by decide
  members_eq := rfl
  width_eq := fun _ => rfl

/-- The timers of a button on the 32-bit target. -/
def arm32Timers : ButtonTimers arm32 where
  timer := arm32Timer
  offset
    | .debounce => 32
    | .hold => 56
  inside := fun k => by cases k <;> decide
  apart := by decide
  apart_field := fun k => by cases k <;> decide
  enum_pos := by decide

/-- An LED and a button; the button is seen to go down, and the LED is turned on. -/
def lightSwitch : List BspOp :=
  [.device (.ledCreate 8 13), .device (.buttonCreate 8 2 20 0), .ledInvertLogic 0x200007E0,
    .buttonUpdate 0x20000F80 ⟨⟨.ok, some 1⟩, 0, 100⟩,
    .buttonUpdate 0x20000F80 ⟨⟨.ok, some 1⟩, 120, 120⟩, .buttonGetEvent 0x20000F80,
    .ledTurnOn 0x200007E0 .ok, .ledDisplayAll, .ledToggle 0 .ok]

theorem lightSwitch_allowed : AllowedAll (bspCall arm32Timers 65) (BspAllowed arm32)
    (BspWorld.start arm32 (fun _ => 0xAB) (fun _ => 0)) lightSwitch := by
  decide +kernel

theorem devices_refine_inventory_switch :
    ∃ w answers inv, bspRun arm32Timers 65 (BspWorld.start arm32 (fun _ => 0xAB) (fun _ => 0))
        lightSwitch = some (w, answers)
      ∧ Traces (Inventory.Step arm32) (Inventory.empty (fun _ => 0)) lightSwitch answers inv := by
  obtain ⟨w, answers, inv, hrun, htrace, _⟩ := devices_refine_inventory arm32Timers (fun _ => 0xAB)
    (fun _ => 0) 65 (by decide) lightSwitch lightSwitch_allowed
  exact ⟨w, answers, inv, hrun, htrace⟩

end FwCore.Proof
