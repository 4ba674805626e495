import FwCore.Bsp.DeviceRun
import FwCore.Bsp.LedControl
import FwCore.Bsp.OutputControl
import FwCore.Bsp.ButtonControl
import FwCore.Lib.Simulation

/-!
# Programs that use devices

Every function of `bsp/led.h`, `bsp/output.h` and `bsp/button.h` as a call, in any
order, on the devices and the pins of the board. What the board answers, the status of
a write, the byte a read stores, a clock reading, is part of the call.
-/

namespace FwCore

open Lib

/-- The calls; a `Nat` is a handle. -/
inductive BspOp where
  /-- Creation and destruction. -/
  | device (op : DeviceOp)
  | ledGetByUuid (uuid : UInt32)
  | ledInvertLogic (led : Nat)
  | ledTurnOn (led : Nat) (status : IoStatus)
  | ledTurnOff (led : Nat) (status : IoStatus)
  | ledToggle (led : Nat) (status : IoStatus)
  | ledDisplayInfo (led : Nat)
  | ledDisplayAll
  | ledRgbGetByUuid (uuid : UInt8)
  | ledRgbInvertLogic (led : Nat)
  /-- `led_rgb_set`, `led_rgb_setRaw`, `led_rgb_off` or `led_rgb_toggle`. -/
  | ledRgbControl (led : Nat) (call : RgbCall)
  | ledRgbGetColor (led : Nat)
  | ledRgbDisplayInfo (led : Nat)
  | ledRgbDisplayAll
  | outputGetByUuid (uuid : UInt32)
  | outputSet (out : Nat) (dutyPercent : UInt8)
  | outputOn (out : Nat)
  | outputOff (out : Nat)
  | outputGetDuty (out : Nat)
  | outputDisplayInfo (out : Nat)
  | outputDisplayAll
  | buttonGetByUuid (uuid : UInt32)
  | buttonInvertLogic (btn : Nat)
  | buttonUpdate (btn : Nat) (env : ButtonEnv)
  | buttonGetEvent (btn : Nat)
  | buttonIsPressed (btn : Nat)
  | buttonDisplayInfo (btn : Nat)
  | buttonDisplayAll

/-- The device a call is given, if it is given one. -/
def BspOp.handle : BspOp → Option (Registry × Nat)
  | .device op =>
    match op.action with
    | .destroy dev => some (op.registry, dev)
    | _ => none
  | .ledInvertLogic led | .ledTurnOn led _ | .ledTurnOff led _ | .ledToggle led _
  | .ledDisplayInfo led => some (.led, led)
  | .ledRgbInvertLogic led | .ledRgbControl led _ | .ledRgbGetColor led
  | .ledRgbDisplayInfo led => some (.ledRgb, led)
  | .outputSet out _ | .outputOn out | .outputOff out | .outputGetDuty out
  | .outputDisplayInfo out => some (.output, out)
  | .buttonInvertLogic btn | .buttonUpdate btn _ | .buttonGetEvent btn | .buttonIsPressed btn
  | .buttonDisplayInfo btn => some (.button, btn)
  | _ => none

/-- The name a creation is given, as a pointer. -/
def DeviceOp.name : DeviceOp → Option Nat
  | .ledCreate name _ | .ledCreateWithUuid name _ _ | .ledRgbCreate name _ _ _
  | .ledRgbCreateWithUuid name _ _ _ _ | .outputCreate name _ | .outputCreateWithUuid name _ _
  | .buttonCreate name _ _ _ | .buttonCreateWithUuid name _ _ _ _ => some name
  | _ => none

/-- The name a call is given, if it is given one. -/
def BspOp.name : BspOp → Option Nat
  | .device op => op.name
  | _ => none

/-- What a call returns. -/
inductive BspRet where
  /-- Nothing. -/
  | void
  | handle (dev : Nat)
  | status (status : IoStatus)
  | color (color : LedRgbColor)
  | duty (percent : UInt8)
  | event (ev : ButtonEvent)
  | pressed (pressed : Bool)
deriving DecidableEq, Repr

/-- What a call returns, and what it does outside but for the pins. -/
structure BspAnswer where
  ret : BspRet
  events : List DeviceEvent
deriving DecidableEq, Repr

/-- Devices and pins, and the handles the callers hold. -/
structure BspWorld where
  devices : Devices
  pins : Pins
  /-- Ghost: the live devices of each kind. -/
  live : Registry → List Nat

/-- What a creation or a destruction returns. -/
def DeviceAction.ret (dev : Nat) : DeviceAction → BspRet
  | .destroy _ => .void
  | _ => .handle dev

section

variable {t : Target} (d : ButtonTimers t) (fuel : Nat) (w : BspWorld)

/-- A call that returns `ret` and prints, and changes nothing. -/
def BspWorld.say (ret : BspRet) (calls : List UprintCall) : BspWorld × BspAnswer :=
  (w, ⟨ret, calls.map .uprint⟩)

/-- A call that changes the devices. -/
def BspWorld.put (r : BspRet × Devices) : BspWorld × BspAnswer :=
  ({ w with devices := r.2 }, ⟨r.1, []⟩)

/-- A control call of an RGB LED. -/
def ledRgbControlAt (t : Target) (s : Devices) (pins : Pins) (led : Nat) (call : RgbCall) :
    IoStatus × Devices × Pins :=
  match call.op with
  | .set color => ledRgbSetAt t s pins call.writes led color
  | .setRaw r g b => ledRgbSetRawAt t s pins call.writes led r g b
  | .off => ledRgbOffAt t s pins call.writes led
  | .toggle color => ledRgbToggleAt t s pins call.writes led color

/-- One call. -/
def bspCall : BspOp → Option (BspWorld × BspAnswer)
  | .device op => do
    let r ← deviceCall t fuel w.devices op
    some (⟨r.devices, w.pins, liveAfter w.live op.registry r.ret op.action⟩,
      ⟨op.action.ret r.ret, r.events⟩)
  | .ledGetByUuid uuid => do
    let dev ← FwCore.ledGetByUuid t fuel w.devices uuid
    some (w.say (.handle dev) [])
  | .ledInvertLogic led =>
    let r := FwCore.ledInvertLogic t w.devices led
    some (w.put (.status r.1, r.2))
  | .ledTurnOn led status =>
    let r := FwCore.ledTurnOn t w.devices w.pins status led
    some ({ w with pins := r.2 }, ⟨.status r.1, []⟩)
  | .ledTurnOff led status =>
    let r := FwCore.ledTurnOff t w.devices w.pins status led
    some ({ w with pins := r.2 }, ⟨.status r.1, []⟩)
  | .ledToggle led status =>
    let r := FwCore.ledToggle t w.devices w.pins status led
    some ({ w with pins := r.2 }, ⟨.status r.1, []⟩)
  | .ledDisplayInfo led => some (w.say .void (FwCore.ledDisplayInfo t w.devices led))
  | .ledDisplayAll => do
    let calls ← FwCore.ledDisplayAll t w.devices fuel
    some (w.say .void calls)
  | .ledRgbGetByUuid uuid => do
    let dev ← FwCore.ledRgbGetByUuid t fuel w.devices uuid
    some (w.say (.handle dev) [])
  | .ledRgbInvertLogic led =>
    let r := ledRgbInvertLogicAt t w.devices led
    some (w.put (.status r.1, r.2))
  | .ledRgbControl led call =>
    let r := ledRgbControlAt t w.devices w.pins led call
    some ({ w with devices := r.2.1, pins := r.2.2 }, ⟨.status r.1, []⟩)
  | .ledRgbGetColor led => some (w.say (.color (ledRgbGetColorAt t w.devices led)) [])
  | .ledRgbDisplayInfo led => some (w.say .void (FwCore.ledRgbDisplayInfo t w.devices led))
  | .ledRgbDisplayAll => do
    let calls ← FwCore.ledRgbDisplayAll t w.devices fuel
    some (w.say .void calls)
  | .outputGetByUuid uuid => do
    let dev ← FwCore.outputGetByUuid t fuel w.devices uuid
    some (w.say (.handle dev) [])
  | .outputSet out dutyPercent =>
    let r := FwCore.outputSet t w.devices out dutyPercent
    some ({ w with devices := r.1 }, ⟨.void, r.2⟩)
  | .outputOn out =>
    let r := FwCore.outputOn t w.devices out
    some ({ w with devices := r.1 }, ⟨.void, r.2⟩)
  | .outputOff out =>
    let r := FwCore.outputOff t w.devices out
    some ({ w with devices := r.1 }, ⟨.void, r.2⟩)
  | .outputGetDuty out => some (w.say (.duty (FwCore.outputGetDuty t w.devices out)) [])
  | .outputDisplayInfo out => some (w.say .void (FwCore.outputDisplayInfo t w.devices out))
  | .outputDisplayAll => do
    let calls ← FwCore.outputDisplayAll t w.devices fuel
    some (w.say .void calls)
  | .buttonGetByUuid uuid => do
    let dev ← FwCore.buttonGetByUuid t fuel w.devices uuid
    some (w.say (.handle dev) [])
  | .buttonInvertLogic btn =>
    some (w.put (.void, { w.devices with mem := buttonInvertLogicAt t w.devices.mem btn }))
  | .buttonUpdate btn env =>
    some (w.put (.void, { w.devices with mem := buttonUpdateAt d w.devices.mem btn env }))
  | .buttonGetEvent btn =>
    let r := buttonGetEventAt t w.devices.mem btn
    some (w.put (.event r.1, { w.devices with mem := r.2 }))
  | .buttonIsPressed btn =>
    some (w.say (.pressed (buttonIsPressedAt t w.devices.mem btn)) [])
  | .buttonDisplayInfo btn => some (w.say .void (buttonDisplayInfoAt t w.devices.mem btn))
  | .buttonDisplayAll => do
    let calls ← FwCore.buttonDisplayAll t fuel w.devices
    some (w.say .void calls)

/-- A sequence of calls. -/
def bspRun (w : BspWorld) (ops : List BspOp) : Option (BspWorld × List BspAnswer) :=
  runAll (bspCall d fuel) w ops

end

/-- A call is given null or a live handle of its own kind, and names are addresses. -/
def BspAllowed (t : Target) (w : BspWorld) (op : BspOp) : Prop :=
  (∀ h ∈ op.handle, h.2 = 0 ∨ h.2 ∈ w.live h.1) ∧ ∀ name ∈ op.name, name < 256 ^ t.ptrSize

instance (t : Target) (w : BspWorld) (op : BspOp) : Decidable (BspAllowed t w op) :=
  inferInstanceAs (Decidable ((∀ h ∈ op.handle, _) ∧ ∀ name ∈ op.name, _))

/-- The world after `pool_Init` and `poolBig_Init`. -/
def BspWorld.start (t : Target) (m : Mem) (pins : Pins) : BspWorld :=
  ⟨Devices.init t m, pins, fun _ => []⟩

end FwCore
