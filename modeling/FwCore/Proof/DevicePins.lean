import FwCore.Proof.DeviceHistory

/-!
# The pins are driven by their owners

A call drives no pin but those of the device it is given, and each of these without a
look at any other. So a device whose pins are its own finds them as it left them: as
long as no call is given another device that shares a pin with it, its pins are what
the device alone would have made of them.
-/

namespace FwCore.Proof

open FwCore Lib

section

variable {t : Target} {d : ButtonTimers t} {inv : Inventory} {fresh : Nat} {op : BspOp}
  {r : Registry} {dev : Nat}

/-! ## One write -/

theorem ioWrite_other (pins : Pins) (status : IoStatus) {pin p : UInt8} (value : UInt8)
    (hp : p ≠ pin) : (ioWrite pins status pin value).2 p = pins p := by
  unfold ioWrite
  dsimp only
  split
  · exact if_neg hp
  · rfl

theorem ioToggle_other (pins : Pins) (status : IoStatus) {pin p : UInt8} (hp : p ≠ pin) :
    (ioToggle pins status pin).2 p = pins p := by
  unfold ioToggle
  dsimp only
  split
  · exact if_neg hp
  · rfl

/-- What becomes of a pin is a matter of that pin. -/
theorem ioWrite_at {pins pins' : Pins} {p : UInt8} (h : pins p = pins' p) (status : IoStatus)
    (pin value : UInt8) : (ioWrite pins status pin value).2 p = (ioWrite pins' status pin value).2 p
    := by
  unfold ioWrite
  dsimp only
  split
  · dsimp only
    rw [h]
  · exact h

theorem ioToggle_at {pins pins' : Pins} {p : UInt8} (h : pins p = pins' p) (status : IoStatus)
    (pin : UInt8) : (ioToggle pins status pin).2 p = (ioToggle pins' status pin).2 p := by
  unfold ioToggle
  dsimp only
  split
  · dsimp only
    rw [h]
  · exact h

theorem ledRgbCall_at {led : LedRgb} {pins pins' : Pins} {p : UInt8} (h : pins p = pins' p)
    (call : RgbCall) : (ledRgbCall led pins call).pins p = (ledRgbCall led pins' call).pins p := by
  have hwrite : ∀ (r g b : Bool), (ledRgbWrite led pins call.writes r g b).2 p
      = (ledRgbWrite led pins' call.writes r g b).2 p := by
    intro r g b
    have hr := ioWrite_at h call.writes.r led.pinR (led.level r)
    have hg := ioWrite_at hr call.writes.g led.pinG (led.level g)
    have hb := ioWrite_at hg call.writes.b led.pinB (led.level b)
    unfold ledRgbWrite
    dsimp only
    by_cases h₁ : call.writes.r = .ok
    · by_cases h₂ : call.writes.g = .ok
      · simpa [ioWrite, h₁, h₂] using hb
      · simpa [ioWrite, h₁, h₂] using hg
    · simpa [ioWrite, h₁] using hr
  rw [ledRgbCall_eq, ledRgbCall_eq, ledRgbSet_eq, ledRgbSet_eq]
  dsimp only
  rw [ledRgbWrite_status led pins pins']
  split
  · exact hwrite _ _ _
  · exact hwrite _ _ _

/-! ## One call of a device alone -/

/-- The pins of other devices stay as they are. -/
theorem aloneCall_frame (rec : r.Record) (pins : Pins) (op : BspOp) {p : UInt8}
    (hp : p ∉ recordPins r rec) : (aloneCall r (rec, pins) op).1.2 p = pins p := by
  cases r with
  | led =>
      have hne : p ≠ rec.pinId := by simpa [recordPins] using hp
      cases op with
      | ledTurnOn led status | ledTurnOff led status => exact ioWrite_other pins status _ hne
      | ledToggle led status => exact ioToggle_other pins status hne
      | _ => rfl
  | ledRgb =>
      cases op with
      | ledRgbControl led call =>
          simp only [recordPins, List.mem_cons, List.not_mem_nil, or_false, not_or] at hp
          show (ledRgbCall rec.led pins call).pins p = pins p
          rw [ledRgbCall_eq]
          exact ledRgbSet_frame _ hp.1 hp.2.1 hp.2.2
      | _ => rfl
  | output => rfl
  | button => rfl

/-- Of its own pins, each is driven without a look at the others. -/
theorem aloneCall_at (rec : r.Record) {pins pins' : Pins} (op : BspOp) {p : UInt8}
    (h : pins p = pins' p) :
    (aloneCall r (rec, pins) op).1.2 p = (aloneCall r (rec, pins') op).1.2 p := by
  cases r with
  | led =>
      cases op with
      | ledTurnOn led status | ledTurnOff led status => exact ioWrite_at h status _ _
      | ledToggle led status => exact ioToggle_at h status _
      | _ => exact h
  | ledRgb =>
      cases op with
      | ledRgbControl led call => exact ledRgbCall_at h call
      | _ => exact h
  | output => exact h
  | button => exact h

/-- A device drives the same pins all its life. -/
theorem aloneCall_recordPins (rec : r.Record) (pins : Pins) (op : BspOp) :
    recordPins r (aloneCall r (rec, pins) op).1.1 = recordPins r rec := by
  cases r with
  | led => cases op <;> rfl
  | ledRgb =>
      cases op with
      | ledRgbControl led call =>
          obtain ⟨hbad, hgood⟩ := ledRgbCall_led rec.led pins call
          by_cases hs : (ledRgbCall rec.led pins call).status = .ok
          · obtain ⟨c, hc⟩ := hgood hs
            simp only [aloneCall, RgbLed.call, recordPins, hc]
          · simp only [aloneCall, RgbLed.call, recordPins, hbad hs]
      | _ => rfl
  | output => rfl
  | button => rfl

/-! ## One call of the library -/

theorem create_pins {mk : Nat → r.Record} {early : r.Record → List DeviceEvent}
    {report : r.Record → UprintCall} {lowMemory : UprintCall} :
    (inv.create fresh r mk early report lowMemory).1.pins = inv.pins := by
  rw [Inventory.create]
  split <;> rfl

theorem createWithUuid_pins {rec : r.Record} {early : r.Record → List DeviceEvent}
    {report : r.Record → UprintCall} {lowMemory duplicate : UprintCall} :
    (inv.createWithUuid fresh r rec early report lowMemory duplicate).1.pins = inv.pins := by
  rw [Inventory.createWithUuid]
  split
  · rfl
  · split <;> rfl

theorem destroy_pins {early : r.Record → List DeviceEvent} :
    (inv.destroy r dev early).1.pins = inv.pins := by
  rw [Inventory.destroy, Inventory.on]
  split <;> rfl

theorem device_pins (dop : DeviceOp) : (inv.deviceCall t fresh dop).1.pins = inv.pins := by
  cases dop with
  | ledCreate | ledRgbCreate | outputCreate | buttonCreate => exact create_pins
  | ledCreateWithUuid | ledRgbCreateWithUuid | outputCreateWithUuid | buttonCreateWithUuid =>
      exact createWithUuid_pins
  | ledDestroy | ledRgbDestroy | outputDestroy | buttonDestroy => exact destroy_pins

/-- A call drives no pin but those of the device it is given. -/
theorem call_pins (t : Target) (inv : Inventory) (fresh : Nat) (op : BspOp) {p : UInt8}
    (h : ∀ r dev rec, op.IsFor r dev → inv.device r dev = some rec → p ∉ recordPins r rec) :
    (inv.call t fresh op).1.pins p = inv.pins p := by
  by_cases hgiven : ∃ r dev rec, op.IsFor r dev ∧ ¬ op.Destroys r dev ∧ inv.device r dev = some rec
  · obtain ⟨r, dev, rec, hop, hne, hrec⟩ := hgiven
    have hgiven : _ ∧ (inv.call t fresh op).1.pins = _ ∧ _ := call_given hop hne hrec
    rw [hgiven.2.1]
    exact aloneCall_frame rec inv.pins op (h r dev rec hop hrec)
  · have hnone : ∀ r dev, op.IsFor r dev → ¬ op.Destroys r dev → inv.device r dev = none := by
      intro r dev hop hne
      exact Option.eq_none_iff_forall_ne_some.mpr fun rec hrec =>
        hgiven ⟨r, dev, rec, hop, hne, hrec⟩
    cases op with
    | device dop => exact congrFun (device_pins dop) p
    | ledInvertLogic dev | ledTurnOn dev status | ledTurnOff dev status | ledToggle dev status
    | ledDisplayInfo dev | ledRgbInvertLogic dev | ledRgbControl dev call | ledRgbGetColor dev
    | ledRgbDisplayInfo dev | outputSet dev dutyPercent | outputOn dev | outputOff dev
    | outputGetDuty dev | outputDisplayInfo dev | buttonInvertLogic dev | buttonUpdate dev env
    | buttonGetEvent dev | buttonIsPressed dev | buttonDisplayInfo dev =>
        have := hnone _ dev rfl id
        simp only [Inventory.call, Inventory.setOutput, Inventory.on, this, Inventory.say]
    | _ => rfl

/-! ## A device and its pins -/

/-- The members of the struct name the pins of the record. -/
theorem devicePins_eq {s : Devices} {rec : r.Record} (h : Holds d r s.mem dev rec) :
    devicePins t s r dev = recordPins r rec := by
  cases r with
  | led => rw [devicePins, ledPinId_eq h, recordPins]
  | ledRgb => rw [devicePins, ledRgbAt_eq h, recordPins]
  | output => rfl
  | button => rfl

/-- A call that keeps off a device: no other device it is given shares a pin. -/
def Inventory.KeepsOff (r : Registry) (dev : Nat) (inv : Inventory) (op : BspOp) : Prop :=
  ∀ r' dev' rec rec', op.IsFor r' dev' → (r', dev') ≠ (r, dev) → inv.device r dev = some rec →
    inv.device r' dev' = some rec' → ∀ p ∈ recordPins r rec, p ∉ recordPins r' rec'

theorem keepsOff_inventory {w : BspWorld} (hR : Represents d w inv) (h : KeepsOff t r dev w op) :
    Inventory.KeepsOff r dev inv op := by
  intro r' dev' rec rec' hop hne hrec hrec' p hp
  have hlive : dev' ∈ w.live r' := by
    rw [← hR.live]
    exact Inventory.mem_live hrec'
  have := h (r', dev') hop hne hlive p
  rw [devicePins_eq (hR.records r dev rec hrec), devicePins_eq (hR.records r' dev' rec' hrec')]
    at this
  exact this hp

/-- A device with its pins keeps to itself, while calls keep off it. -/
theorem pins_component (t : Target) (r : Registry) (dev : Nat) :
    Component (fun inv op answer inv' => Inventory.Step t inv op answer inv'
        ∧ Inventory.KeepsOff r dev inv op)
      (fun inv (c : r.Record × Pins) => inv.device r dev = some c.1
        ∧ ∀ p ∈ recordPins r c.1, inv.pins p = c.2 p)
      (BspOp.IsFor r dev) (BspOp.Destroys r dev) (fun _ _ _ => True) (aloneCall r) where
  birth := fun _ _ _ => trivial
  given := by
    rintro a b op answer ⟨rec, pins⟩ ⟨⟨fresh, _, _, hcall⟩, _⟩ ⟨hrec, hpins⟩ hop hne
    have hgiven : _ ∧ _ ∧ (a.call t fresh op).2 = _ := call_given hop hne hrec
    obtain ⟨hdev, hp, hans⟩ := hgiven
    rw [hcall] at hdev hp hans
    obtain ⟨hrec', hans'⟩ := aloneCall_pins rec a.pins pins op
    refine ⟨⟨by rw [hdev, hrec'], fun p hmem => ?_⟩, hans.trans hans'⟩
    rw [aloneCall_recordPins] at hmem
    rw [hp]
    exact aloneCall_at rec op (hpins p hmem)
  kept := by
    rintro a b op answer ⟨rec, pins⟩ ⟨⟨fresh, _, hfresh, hcall⟩, hoff⟩ ⟨hrec, hpins⟩ hop
    have hdev := call_kept (t := t) hop hfresh hrec
    rw [hcall] at hdev
    refine ⟨hdev, fun p hmem => ?_⟩
    have hkept := call_pins t a fresh op (p := p) (fun r' dev' rec' hop' hrec' =>
      hoff r' dev' rec rec' hop' (fun hsame => ?_) hrec hrec' p hmem)
    · rw [hcall] at hkept
      rw [hkept]
      exact hpins p hmem
    · obtain ⟨rfl, rfl⟩ := Prod.mk.inj hsame
      exact hop hop'
  death := by
    rintro a b op answer ⟨rec, pins⟩ ⟨⟨fresh, _, _, hcall⟩, _⟩ hop ⟨hrec, _⟩
    have h : (a.call t fresh op).1.device r dev = none := call_gone hop
    rw [hcall, hrec] at h
    cases h

/--
**A device finds its pins as it left them.**

From any state the library can get to, take any permitted program that does not destroy
the device `dev` and in which no call is given another device that shares a pin with it.
Creations, destructions, lookups, messages and calls to all other devices included, the
levels at its pins are in the end those that its own calls, taken by themselves, drive
them to.
-/
theorem pins_driven_by_owner (d : ButtonTimers t) (m : Mem) (pins : Pins) (fuel : Nat)
    (hf : 64 < fuel) (ops₁ ops₂ : List BspOp) {w₁ : BspWorld} {answers₁ : List BspAnswer}
    (hal₁ : AllowedAll (bspCall d fuel) (BspAllowed t) (BspWorld.start t m pins) ops₁)
    (hrun₁ : bspRun d fuel (BspWorld.start t m pins) ops₁ = some (w₁, answers₁))
    (r : Registry) {dev : Nat} (hdev : dev ∈ w₁.live r)
    (hal₂ : AllowedAll (bspCall d fuel) (fun w op => BspAllowed t w op ∧ KeepsOff t r dev w op)
      w₁ ops₂) (hkeep : ∀ op ∈ ops₂, ¬ op.Destroys r dev) :
    ∃ w₂ answers₂ rec, bspRun d fuel w₁ ops₂ = some (w₂, answers₂)
      ∧ Holds d r w₁.devices.mem dev rec
      ∧ ∀ p ∈ recordPins r rec, w₂.pins p
          = (runOwn (aloneCall r) (rec, w₁.pins) (ops₂.filter (BspOp.IsFor r dev ·))).1.2 p := by
  obtain ⟨w, answers, inv₁, hrun, _, hR₁⟩ :=
    (bsp_simulates d hf).run ops₁ (represents_start d m pins) hal₁
  obtain ⟨rfl, rfl⟩ := Prod.mk.inj (Option.some.inj (hrun₁.symm.trans hrun))
  have hsim : Simulates (bspCall d fuel) (fun w op => BspAllowed t w op ∧ KeepsOff t r dev w op)
      (fun inv op answer inv' => Inventory.Step t inv op answer inv'
        ∧ Inventory.KeepsOff r dev inv op) (Represents d) := by
    intro w inv op hR hal
    obtain ⟨w', answer, inv', hcall, hstep, hR'⟩ := bsp_simulates d hf w inv op hR hal.1
    exact ⟨w', answer, inv', hcall, ⟨hstep, keepsOff_inventory hR hal.2⟩, hR'⟩
  obtain ⟨w₂, answers₂, inv₂, hrun₂, htrace, hR₂⟩ := hsim.run ops₂ hR₁ hal₂
  obtain ⟨rec, hrec, hholds⟩ := hR₁.device hdev
  obtain ⟨⟨_, hpins⟩, _⟩ := (pins_component t r dev).run htrace (c := (rec, w₁.pins))
    ⟨hrec, fun p _ => congrFun hR₁.pins p⟩ hkeep
  refine ⟨w₂, answers₂, rec, hrun₂, hholds, fun p hmem => ?_⟩
  rw [← hR₂.pins]
  refine hpins p ?_
  have hsame := runOwn_keeps (f := fun c : r.Record × Pins => recordPins r c.1)
    (fun c op => aloneCall_recordPins c.1 c.2 op) (rec, w₁.pins)
    (ops₂.filter (BspOp.IsFor r dev ·))
  rwa [hsame]

end

/-- An LED and an RGB LED. -/
def lamps : List BspOp := [.device (.ledCreate 8 13), .device (.ledRgbCreate 8 1 2 3)]

/-- The LED is turned on; the RGB LED turns red and is destroyed; an LED is asked for. -/
def lampsGoOn : List BspOp :=
  [.ledTurnOn 0x200007E0 .ok, .ledRgbControl 0x200007C0 ⟨.set .red, ⟨.ok, .ok, .ok⟩⟩,
    .device (.ledRgbDestroy 0x200007C0), .ledDisplayAll, .ledTurnOff 0x200007E0 .errTimeout]

/-- The board the lamps are made on. -/
def lampsBoard : BspWorld := BspWorld.start arm32 (fun _ => 0xAB) (fun _ => 0)

theorem lamps_allowed :
    AllowedAll (bspCall arm32Timers 65) (BspAllowed arm32) lampsBoard lamps := by
  decide +kernel

theorem lamps_run : (bspRun arm32Timers 65 lampsBoard lamps).isSome := by
  decide +kernel

/-- The board with the lamps. -/
def lampsMade : BspWorld × List BspAnswer := (bspRun arm32Timers 65 lampsBoard lamps).get lamps_run

theorem lampsGoOn_allowed : AllowedAll (bspCall arm32Timers 65)
    (fun w op => BspAllowed arm32 w op ∧ KeepsOff arm32 .led 0x200007E0 w op)
    lampsMade.1 lampsGoOn := by
  decide +kernel

theorem lamp_live : 0x200007E0 ∈ lampsMade.1.live .led := by
  decide +kernel

theorem lampsGoOn_keep : ∀ op ∈ lampsGoOn, ¬ op.Destroys .led 0x200007E0 := by
  intro op hop hd
  have := hd.isFor
  simp only [lampsGoOn, List.mem_cons, List.not_mem_nil, or_false] at hop
  rcases hop with rfl | rfl | rfl | rfl | rfl
  · exact hd.elim
  · exact hd.elim
  · cases this
  · exact hd.elim
  · exact hd.elim

theorem pins_driven_by_owner_lamp :
    ∃ w₂ answers₂ rec, bspRun arm32Timers 65 lampsMade.1 lampsGoOn = some (w₂, answers₂)
      ∧ ∀ p ∈ recordPins .led rec, w₂.pins p
          = (runOwn (aloneCall .led) (rec, lampsMade.1.pins)
            (lampsGoOn.filter (BspOp.IsFor .led 0x200007E0 ·))).1.2 p := by
  obtain ⟨w₂, answers₂, rec, hrun, _, hpins⟩ := pins_driven_by_owner arm32Timers (fun _ => 0xAB)
    (fun _ => 0) 65 (by decide) lamps lampsGoOn lamps_allowed (Option.some_get lamps_run).symm .led
    lamp_live lampsGoOn_allowed lampsGoOn_keep
  exact ⟨w₂, answers₂, rec, hrun, hpins⟩

end FwCore.Proof
