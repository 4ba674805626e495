import FwCore.Bsp.BspRun

/-!
# What the device library is for

The library keeps an inventory. There are devices of four kinds; a device has a name, a
uuid that no other of its kind has, and whatever its kind adds; the callers know it by a
handle. This module says so with no mention of memory, pools, lists or structs: an
`Inventory` is a map from handles to records with, for each kind, the handles in use,
newest first, and the number its uuids are counted from.

Which handle a new device gets is not the inventory's business, only that it is not in
use. `Inventory.call` is given it.
-/

namespace FwCore

open Lib

/-- A single LED. -/
structure Led where
  name : Option CStr
  pinId : UInt8
  uuid : UInt32
  inverted : Bool
deriving DecidableEq, Repr

/-- An RGB LED. -/
structure RgbLed where
  name : Option CStr
  uuid : UInt8
  led : LedRgb
deriving DecidableEq, Repr

/-- A PWM output. -/
structure Output where
  name : Option CStr
  pwmId : UInt8
  uuid : UInt32
  duty : UInt8
deriving DecidableEq, Repr

/-- What is known of a device of a kind. -/
abbrev Registry.Record : Registry → Type
  | .led => Led
  | .ledRgb => RgbLed
  | .output => Output
  | .button => Button

/-- Its name. -/
def recordName : (r : Registry) → r.Record → Option CStr
  | .led, led => led.name
  | .ledRgb, led => led.name
  | .output, out => out.name
  | .button, btn => btn.name

/-- Its uuid. -/
def recordUuid : (r : Registry) → r.Record → Nat
  | .led, led => led.uuid.toNat
  | .ledRgb, led => led.uuid.toNat
  | .output, out => out.uuid.toNat
  | .button, btn => btn.uuid.toNat

/-- The devices there are, by handle; the numbers to count uuids from; and the pins. -/
structure Inventory where
  /-- The handles in use, newest first. -/
  live : Registry → List Nat
  device : (r : Registry) → Nat → Option r.Record
  uuidCount : Registry → Nat
  pins : Pins
  /-- The handles in use are those there is a device for. -/
  listed : ∀ r dev, dev ∈ live r ↔ (device r dev).isSome

namespace Inventory

/-- Nothing yet. -/
def empty (pins : Pins) : Inventory where
  live := fun _ => []
  device := fun _ _ => none
  uuidCount := Registry.firstUuid
  pins := pins
  listed := by simp

variable (inv : Inventory)

/-! ## Devices come, change and go -/

/-- A new device. -/
def add (r : Registry) (dev : Nat) (rec : r.Record) : Inventory where
  live := Function.update inv.live r (dev :: inv.live r)
  device := Function.update inv.device r (Function.update (inv.device r) dev (some rec))
  uuidCount := inv.uuidCount
  pins := inv.pins
  listed := by
    intro r' dev'
    by_cases hr : r' = r
    · subst hr
      rw [Function.update_self, Function.update_self, List.mem_cons]
      by_cases hd : dev' = dev
      · subst hd
        simp
      · rw [Function.update_of_ne hd, inv.listed r' dev']
        simp [hd]
    · rw [Function.update_of_ne hr, Function.update_of_ne hr]
      exact inv.listed r' dev'

/-- A device is no more. -/
def remove (r : Registry) (dev : Nat) : Inventory where
  live := Function.update inv.live r ((inv.live r).filter (· ≠ dev))
  device := Function.update inv.device r (Function.update (inv.device r) dev none)
  uuidCount := inv.uuidCount
  pins := inv.pins
  listed := by
    intro r' dev'
    by_cases hr : r' = r
    · subst hr
      rw [Function.update_self, Function.update_self, List.mem_filter]
      by_cases hd : dev' = dev
      · subst hd
        simp
      · rw [Function.update_of_ne hd, ← inv.listed r' dev']
        simp [hd]
    · rw [Function.update_of_ne hr, Function.update_of_ne hr]
      exact inv.listed r' dev'

/-- What is known of a device changes. -/
def edit (r : Registry) (dev : Nat) (f : r.Record → r.Record) : Inventory where
  live := inv.live
  device := Function.update inv.device r
    (Function.update (inv.device r) dev ((inv.device r dev).map f))
  uuidCount := inv.uuidCount
  pins := inv.pins
  listed := by
    intro r' dev'
    by_cases hr : r' = r
    · subst hr
      rw [Function.update_self]
      by_cases hd : dev' = dev
      · subst hd
        rw [Function.update_self, Option.isSome_map]
        exact inv.listed r' dev'
      · rw [Function.update_of_ne hd]
        exact inv.listed r' dev'
    · rw [Function.update_of_ne hr]
      exact inv.listed r' dev'

section

variable {inv} {r r' : Registry} {dev dev' : Nat}

/-- Only one entry of a map of maps is changed. -/
theorem update_other {r r' : Registry} {dev dev' : Nat} (h : r' = r → dev' ≠ dev)
    (v : Option r.Record) : Function.update inv.device r (Function.update (inv.device r) dev v) r'
      dev' = inv.device r' dev' := by
  by_cases hr : r' = r
  · subst hr
    rw [Function.update_self, Function.update_of_ne (h rfl)]
  · rw [Function.update_of_ne hr]

@[simp] theorem add_device_self (rec : r.Record) : (inv.add r dev rec).device r dev = some rec := by
  show Function.update inv.device r _ r dev = _
  rw [Function.update_self, Function.update_self]

theorem add_device_other (h : r' = r → dev' ≠ dev) (rec : r.Record) :
    (inv.add r dev rec).device r' dev' = inv.device r' dev' := update_other h _

@[simp] theorem remove_device_self : (inv.remove r dev).device r dev = none := by
  show Function.update inv.device r _ r dev = _
  rw [Function.update_self, Function.update_self]

theorem remove_device_other (h : r' = r → dev' ≠ dev) :
    (inv.remove r dev).device r' dev' = inv.device r' dev' := update_other h _

@[simp] theorem edit_device_self (f : r.Record → r.Record) :
    (inv.edit r dev f).device r dev = (inv.device r dev).map f := by
  show Function.update inv.device r _ r dev = _
  rw [Function.update_self, Function.update_self]

theorem edit_device_other (h : r' = r → dev' ≠ dev) (f : r.Record → r.Record) :
    (inv.edit r dev f).device r' dev' = inv.device r' dev' := update_other h _

/-! Kind by kind: -/

theorem add_device_kind (r : Registry) (dev : Nat) (rec : r.Record) :
    (inv.add r dev rec).device r = Function.update (inv.device r) dev (some rec) :=
  Function.update_self r _ inv.device

theorem remove_device_kind (r : Registry) (dev : Nat) :
    (inv.remove r dev).device r = Function.update (inv.device r) dev none :=
  Function.update_self r _ inv.device

theorem edit_device_kind (r : Registry) (dev : Nat) (f : r.Record → r.Record) :
    (inv.edit r dev f).device r
      = Function.update (inv.device r) dev ((inv.device r dev).map f) :=
  Function.update_self r _ inv.device

theorem add_device_of_ne (h : r' ≠ r) (rec : r.Record) :
    (inv.add r dev rec).device r' = inv.device r' := Function.update_of_ne h _ inv.device

theorem remove_device_of_ne (h : r' ≠ r) : (inv.remove r dev).device r' = inv.device r' :=
  Function.update_of_ne h _ inv.device

theorem edit_device_of_ne (h : r' ≠ r) (f : r.Record → r.Record) :
    (inv.edit r dev f).device r' = inv.device r' := Function.update_of_ne h _ inv.device

/-- There is a device behind a handle in use. -/
theorem mem_live {rec : r.Record} (h : inv.device r dev = some rec) : dev ∈ inv.live r := by
  rw [inv.listed r dev, h]
  rfl

end

/-- The pins change. -/
def setPins (pins : Pins) : Inventory := { inv with pins := pins }

@[simp] theorem setPins_device (pins : Pins) : (inv.setPins pins).device = inv.device := rfl

/-- The uuids of a kind are counted on from here. -/
def setCount (r : Registry) (c : Nat) : Inventory :=
  { inv with uuidCount := Function.update inv.uuidCount r c }

/-! ## Questions -/

/-- Something of every device of a kind, newest first. -/
def each {α : Type} (r : Registry) (f : r.Record → α) : List α :=
  (inv.live r).filterMap (fun dev => (inv.device r dev).map f)

/-- How many devices there are in a pool. -/
def used : PoolId → Nat
  | .small => (inv.live .led).length + (inv.live .ledRgb).length + (inv.live .output).length
  | .big => (inv.live .button).length

/-- There is no room for another device of the kind. -/
def full (r : Registry) : Prop := inv.used r.pool = r.pool.blockCount.toNat

instance (r : Registry) : Decidable (inv.full r) := inferInstanceAs (Decidable (_ = _))

/-- The uuids in use. -/
def uuids (r : Registry) : List Nat := inv.each r (recordUuid r)

/-- The device with a uuid, or null. -/
def byUuid (r : Registry) (uuid : Nat) : Nat :=
  ((inv.live r).find? fun dev => (inv.device r dev).map (recordUuid r) == some uuid).getD 0

/-- Counting up, and around, the first uuid that is not in use. -/
def nextUuid (r : Registry) : Nat :=
  (((List.range ((inv.live r).length + 1)).map
    fun k => (inv.uuidCount r + k) % 256 ^ r.uuidBytes).find? (· ∉ inv.uuids r)).getD 0

/-! ## Calls -/

/-- A call that answers `ret` and prints, and changes nothing. -/
def say (ret : BspRet) (calls : List UprintCall) : Inventory × BspAnswer :=
  (inv, ⟨ret, calls.map .uprint⟩)

/-- A call about a device, which answers `null` if there is none. -/
def on (r : Registry) (dev : Nat) (null : BspRet) (f : r.Record → Inventory × BspAnswer) :
    Inventory × BspAnswer :=
  match inv.device r dev with
  | none => inv.say null []
  | some rec => f rec

/-- A new device `mk uuid`, if there is room. -/
def create (fresh : Nat) (r : Registry) (mk : Nat → r.Record) (early : r.Record → List DeviceEvent)
    (report : r.Record → UprintCall) (lowMemory : UprintCall) : Inventory × BspAnswer :=
  if inv.full r then inv.say (.handle 0) [lowMemory]
  else
    let uuid := inv.nextUuid r
    let new := mk uuid
    ((inv.setCount r ((uuid + 1) % 256 ^ r.uuidBytes)).add r fresh new,
      ⟨.handle fresh, early new ++ [.uprint (report new)]⟩)

/-- A new device `rec`, if its uuid is not in use and there is room. -/
def createWithUuid (fresh : Nat) (r : Registry) (rec : r.Record)
    (early : r.Record → List DeviceEvent) (report : r.Record → UprintCall)
    (lowMemory duplicate : UprintCall) : Inventory × BspAnswer :=
  if recordUuid r rec ∈ inv.uuids r then inv.say (.handle 0) [duplicate]
  else if inv.full r then inv.say (.handle 0) [lowMemory]
  else (inv.add r fresh rec, ⟨.handle fresh, early rec ++ [.uprint (report rec)]⟩)

/-- A device goes: `early` is what happens first. -/
def destroy (r : Registry) (dev : Nat) (early : r.Record → List DeviceEvent) :
    Inventory × BspAnswer :=
  inv.on r dev .void fun rec =>
    (inv.remove r dev, ⟨.void, early rec ++
      [.uprint ⟨"*** %s destroyed ***\r\n", [.str (recordName r rec)]⟩]⟩)

end Inventory

/-- The level that turns an LED on, or off. -/
def Led.level (led : Led) (on : Bool) : UInt8 :=
  if on ^^ led.inverted then ioPinHigh else ioPinLow

/-- A duty is at most 100 percent. -/
def Output.set (out : Output) (dutyPercent : UInt8) : Output :=
  { out with duty := min dutyPercent 100 }

namespace Inventory

variable (inv : Inventory) (t : Target) (fresh : Nat)

/-- The creating and destroying calls. -/
def deviceCall : DeviceOp → Inventory × BspAnswer
  | .ledCreate name pinId =>
    inv.create fresh .led (fun uuid => ⟨t.cstr name, pinId, UInt32.ofNat uuid, false⟩) (fun _ => [])
      (fun led => ⟨"*** %s created (UUID %u) ***\r\n", [.str led.name, .unsigned led.uuid]⟩)
      ledLowMemory
  | .ledCreateWithUuid name pinId uuid =>
    inv.createWithUuid fresh .led ⟨t.cstr name, pinId, uuid, false⟩ (fun _ => [])
      (fun led => ⟨"*** %s created with UUID %lu ***\r\n", [.str led.name, .unsigned led.uuid]⟩)
      ledLowMemory
      ⟨"Failed to create %s: UUID %u already exists\r\n", [.str (t.cstr name), .unsigned uuid]⟩
  | .ledDestroy led => inv.destroy .led led (fun _ => [])
  | .ledRgbCreate name pinR pinG pinB =>
    inv.create fresh .ledRgb
      (fun uuid => ⟨t.cstr name, UInt8.ofNat uuid, .created pinR pinG pinB⟩) (fun _ => [])
      (fun led => ⟨"*** %s created (UUID %u) ***\r\n",
        [.str led.name, .unsigned led.uuid.toUInt32]⟩)
      ledLowMemory
  | .ledRgbCreateWithUuid name pinR pinG pinB uuid =>
    inv.createWithUuid fresh .ledRgb ⟨t.cstr name, uuid, .created pinR pinG pinB⟩ (fun _ => [])
      (fun led => ⟨"*** %s created with UUID %u ***\r\n",
        [.str led.name, .unsigned led.uuid.toUInt32]⟩)
      ledLowMemory
      ⟨"Failed to create %s: UUID %u already exists\r\n",
        [.str (t.cstr name), .unsigned uuid.toUInt32]⟩
  | .ledRgbDestroy led => inv.destroy .ledRgb led (fun _ => [])
  | .outputCreate name pwmId =>
    inv.create fresh .output (fun uuid => ⟨t.cstr name, pwmId, UInt32.ofNat uuid, 0⟩)
      (fun out => [.pwmInit out.pwmId])
      (fun out => ⟨"*** %s created ***\r\n", [.str out.name]⟩)
      outputLowMemory
  | .outputCreateWithUuid name pwmId uuid =>
    inv.createWithUuid fresh .output ⟨t.cstr name, pwmId, uuid, 0⟩
      (fun out => [.pwmInit out.pwmId])
      (fun out => ⟨"*** %s created with UUID %u ***\r\n", [.str out.name, .unsigned out.uuid]⟩)
      outputLowMemory
      ⟨"Failed to create %s: UUID %u already exists\r\n", [.str (t.cstr name), .unsigned uuid]⟩
  | .outputDestroy out =>
    inv.destroy .output out (fun rec => [.pwmSetDuty rec.pwmId 0, .pwmDeinit rec.pwmId])
  | .buttonCreate name pinId debounceMs holdTimeMs =>
    inv.create fresh .button
      (fun uuid => .created (t.cstr name) pinId debounceMs holdTimeMs (UInt32.ofNat uuid))
      (fun _ => [])
      (fun btn => ⟨"*** %s created ***\r\n", [.str btn.name]⟩)
      buttonLowMemory
  | .buttonCreateWithUuid name pinId debounceMs holdTimeMs uuid =>
    inv.createWithUuid fresh .button (.created (t.cstr name) pinId debounceMs holdTimeMs uuid)
      (fun _ => [])
      (fun btn => ⟨"*** %s created with UUID %lu ***\r\n", [.str btn.name, .unsigned btn.uuid]⟩)
      buttonLowMemory
      ⟨"Failed to create %s: UUID %lu already exists\r\n", [.str (t.cstr name), .unsigned uuid]⟩
  | .buttonDestroy btn => inv.destroy .button btn (fun _ => [])

/-- Driving an output. -/
def setOutput (out : Nat) (dutyPercent : UInt8) : Inventory × BspAnswer :=
  inv.on .output out .void fun rec =>
    (inv.edit .output out (·.set dutyPercent),
      ⟨.void, [.pwmSetDuty rec.pwmId (rec.set dutyPercent).duty]⟩)

/-- Any call. -/
def call : BspOp → Inventory × BspAnswer
  | .device op => inv.deviceCall t fresh op
  | .ledGetByUuid uuid => inv.say (.handle (inv.byUuid .led uuid.toNat)) []
  | .ledInvertLogic led =>
    inv.on .led led (.status .errNull) fun _ =>
      (inv.edit .led led ({ · with inverted := true }), ⟨.status .ok, []⟩)
  | .ledTurnOn led status =>
    inv.on .led led (.status .errNull) fun rec =>
      (inv.setPins (ioWrite inv.pins status rec.pinId (rec.level true)).2, ⟨.status status, []⟩)
  | .ledTurnOff led status =>
    inv.on .led led (.status .errNull) fun rec =>
      (inv.setPins (ioWrite inv.pins status rec.pinId (rec.level false)).2, ⟨.status status, []⟩)
  | .ledToggle led status =>
    inv.on .led led (.status .errNull) fun rec =>
      (inv.setPins (ioToggle inv.pins status rec.pinId).2, ⟨.status status, []⟩)
  | .ledDisplayInfo led =>
    inv.on .led led .void fun rec =>
      inv.say .void [⟨"Device: %s | UUID: %u | pin_id: %u\r\n",
        [.str rec.name, .unsigned rec.uuid, .unsigned rec.pinId.toUInt32]⟩]
  | .ledDisplayAll =>
    inv.say .void (inv.each .led fun rec => ⟨"  %s (UUID: %u, pin_id: %u)\r\n",
      [.str rec.name, .unsigned rec.uuid, .unsigned rec.pinId.toUInt32]⟩)
  | .ledRgbGetByUuid uuid => inv.say (.handle (inv.byUuid .ledRgb uuid.toNat)) []
  | .ledRgbInvertLogic led =>
    inv.on .ledRgb led (.status .errNull) fun _ =>
      (inv.edit .ledRgb led (fun rec => { rec with led := ledRgbInvertLogic rec.led }),
        ⟨.status .ok, []⟩)
  | .ledRgbControl led call =>
    inv.on .ledRgb led (.status .errNull) fun rec =>
      let res := ledRgbCall rec.led inv.pins call
      ((inv.edit .ledRgb led ({ · with led := res.led })).setPins res.pins,
        ⟨.status res.status, []⟩)
  | .ledRgbGetColor led =>
    inv.on .ledRgb led (.color .off) fun rec => inv.say (.color (ledRgbGetColor rec.led)) []
  | .ledRgbDisplayInfo led =>
    inv.on .ledRgb led .void fun rec =>
      inv.say .void [⟨"Device: %s | UUID: %u | pins R:%u G:%u B:%u\r\n",
        [.str rec.name, .unsigned rec.uuid.toUInt32, .unsigned rec.led.pinR.toUInt32,
          .unsigned rec.led.pinG.toUInt32, .unsigned rec.led.pinB.toUInt32]⟩]
  | .ledRgbDisplayAll =>
    inv.say .void (inv.each .ledRgb fun rec => ⟨"  %s (UUID: %u)\r\n",
      [.str rec.name, .unsigned rec.uuid.toUInt32]⟩)
  | .outputGetByUuid uuid => inv.say (.handle (inv.byUuid .output uuid.toNat)) []
  | .outputSet out dutyPercent => inv.setOutput out dutyPercent
  | .outputOn out => inv.setOutput out 100
  | .outputOff out => inv.setOutput out 0
  | .outputGetDuty out => inv.on .output out (.duty 0) fun rec => inv.say (.duty rec.duty) []
  | .outputDisplayInfo out =>
    inv.on .output out .void fun rec =>
      inv.say .void [⟨"Output [%s] UUID=%u duty=%u%%\r\n",
        [.str rec.name, .unsigned rec.uuid, .unsigned rec.duty.toUInt32]⟩]
  | .outputDisplayAll =>
    inv.say .void ([outputRule] ++ (inv.each .output fun rec => ⟨"  [%s] UUID=%u duty=%u%%\r\n",
      [.str rec.name, .unsigned rec.uuid, .unsigned rec.duty.toUInt32]⟩) ++ [outputRule])
  | .buttonGetByUuid uuid => inv.say (.handle (inv.byUuid .button uuid.toNat)) []
  | .buttonInvertLogic btn =>
    inv.on .button btn .void fun _ => (inv.edit .button btn buttonInvertLogic, ⟨.void, []⟩)
  | .buttonUpdate btn env =>
    inv.on .button btn .void fun _ =>
      (inv.edit .button btn (FwCore.buttonUpdate · env), ⟨.void, []⟩)
  | .buttonGetEvent btn =>
    inv.on .button btn (.event .none) fun rec =>
      (inv.edit .button btn (fun rec => (FwCore.buttonGetEvent rec).2),
        ⟨.event (FwCore.buttonGetEvent rec).1, []⟩)
  | .buttonIsPressed btn =>
    inv.on .button btn (.pressed false) fun rec =>
      inv.say (.pressed (FwCore.buttonIsPressed rec)) []
  | .buttonDisplayInfo btn =>
    inv.on .button btn .void fun rec => inv.say .void [FwCore.buttonDisplayInfo rec]
  | .buttonDisplayAll =>
    inv.say .void (inv.each .button fun rec => ⟨"  %s (UUID: %lu)\r\n",
      [.str rec.name, .unsigned rec.uuid]⟩)

/-- A call, whatever handle a new device gets. -/
def Step (inv : Inventory) (op : BspOp) (answer : BspAnswer) (inv' : Inventory) : Prop :=
  ∃ fresh, fresh ≠ 0 ∧ (∀ r, fresh ∉ inv.live r) ∧ inv.call t fresh op = (inv', answer)

end Inventory

end FwCore
