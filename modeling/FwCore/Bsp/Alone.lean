import FwCore.Bsp.Inventory
import FwCore.Lib.Component

/-!
# A device alone on the board

What a device makes of the calls it is given if there is nothing else: no other device,
no pool, no list, only its record and the pins. The functions of the source never look
at anything but the struct they are given, the pins and the hardware; here is what they
then compute, kind by kind, and what a device is when it is new.
-/

namespace FwCore

open Lib

/-- An LED and the pins after a call of the LED, and the answer. -/
def Led.call (led : Led) (pins : Pins) : BspOp → (Led × Pins) × BspAnswer
  | .ledInvertLogic _ => (({ led with inverted := true }, pins), ⟨.status .ok, []⟩)
  | .ledTurnOn _ status =>
    ((led, (ioWrite pins status led.pinId (led.level true)).2), ⟨.status status, []⟩)
  | .ledTurnOff _ status =>
    ((led, (ioWrite pins status led.pinId (led.level false)).2), ⟨.status status, []⟩)
  | .ledToggle _ status => ((led, (ioToggle pins status led.pinId).2), ⟨.status status, []⟩)
  | .ledDisplayInfo _ =>
    ((led, pins), ⟨.void, [.uprint ⟨"Device: %s | UUID: %u | pin_id: %u\r\n",
      [.str led.name, .unsigned led.uuid, .unsigned led.pinId.toUInt32]⟩]⟩)
  | _ => ((led, pins), ⟨.void, []⟩)

/-- An RGB LED and the pins after a call of it, and the answer. -/
def RgbLed.call (led : RgbLed) (pins : Pins) : BspOp → (RgbLed × Pins) × BspAnswer
  | .ledRgbInvertLogic _ =>
    (({ led with led := ledRgbInvertLogic led.led }, pins), ⟨.status .ok, []⟩)
  | .ledRgbControl _ call =>
    let res := ledRgbCall led.led pins call
    (({ led with led := res.led }, res.pins), ⟨.status res.status, []⟩)
  | .ledRgbGetColor _ => ((led, pins), ⟨.color (ledRgbGetColor led.led), []⟩)
  | .ledRgbDisplayInfo _ =>
    ((led, pins), ⟨.void, [.uprint ⟨"Device: %s | UUID: %u | pins R:%u G:%u B:%u\r\n",
      [.str led.name, .unsigned led.uuid.toUInt32, .unsigned led.led.pinR.toUInt32,
        .unsigned led.led.pinG.toUInt32, .unsigned led.led.pinB.toUInt32]⟩]⟩)
  | _ => ((led, pins), ⟨.void, []⟩)

/-- An output after a call of it, and the answer. -/
def Output.call (out : Output) : BspOp → Output × BspAnswer
  | .outputSet _ dutyPercent =>
    (out.set dutyPercent, ⟨.void, [.pwmSetDuty out.pwmId (out.set dutyPercent).duty]⟩)
  | .outputOn _ => (out.set 100, ⟨.void, [.pwmSetDuty out.pwmId (out.set 100).duty]⟩)
  | .outputOff _ => (out.set 0, ⟨.void, [.pwmSetDuty out.pwmId (out.set 0).duty]⟩)
  | .outputGetDuty _ => (out, ⟨.duty out.duty, []⟩)
  | .outputDisplayInfo _ =>
    (out, ⟨.void, [.uprint ⟨"Output [%s] UUID=%u duty=%u%%\r\n",
      [.str out.name, .unsigned out.uuid, .unsigned out.duty.toUInt32]⟩]⟩)
  | _ => (out, ⟨.void, []⟩)

/-- A button after a call of it, and the answer. -/
def Button.call (btn : Button) : BspOp → Button × BspAnswer
  | .buttonInvertLogic _ => (buttonInvertLogic btn, ⟨.void, []⟩)
  | .buttonUpdate _ env => (buttonUpdate btn env, ⟨.void, []⟩)
  | .buttonGetEvent _ => ((buttonGetEvent btn).2, ⟨.event (buttonGetEvent btn).1, []⟩)
  | .buttonIsPressed _ => (btn, ⟨.pressed (buttonIsPressed btn), []⟩)
  | .buttonDisplayInfo _ => (btn, ⟨.void, [.uprint (buttonDisplayInfo btn)]⟩)
  | _ => (btn, ⟨.void, []⟩)

/-- A device of any kind and the pins after a call of it, and the answer. -/
def aloneCall : (r : Registry) → r.Record × Pins → BspOp → (r.Record × Pins) × BspAnswer
  | .led, (rec, pins), op => rec.call pins op
  | .ledRgb, (rec, pins), op => rec.call pins op
  | .output, (rec, pins), op => (((rec.call op).1, pins), (rec.call op).2)
  | .button, (rec, pins), op => (((rec.call op).1, pins), (rec.call op).2)

/-- A call and the record of the device it may create. -/
inductive Creates (t : Target) : BspOp → (r : Registry) → r.Record → Prop where
  | led (name : Nat) (pinId : UInt8) (uuid : UInt32) :
    Creates t (.device (.ledCreate name pinId)) .led ⟨t.cstr name, pinId, uuid, false⟩
  | ledWithUuid (name : Nat) (pinId : UInt8) (uuid : UInt32) :
    Creates t (.device (.ledCreateWithUuid name pinId uuid)) .led
      ⟨t.cstr name, pinId, uuid, false⟩
  | ledRgb (name : Nat) (pinR pinG pinB uuid : UInt8) :
    Creates t (.device (.ledRgbCreate name pinR pinG pinB)) .ledRgb
      ⟨t.cstr name, uuid, .created pinR pinG pinB⟩
  | ledRgbWithUuid (name : Nat) (pinR pinG pinB uuid : UInt8) :
    Creates t (.device (.ledRgbCreateWithUuid name pinR pinG pinB uuid)) .ledRgb
      ⟨t.cstr name, uuid, .created pinR pinG pinB⟩
  | output (name : Nat) (pwmId : UInt8) (uuid : UInt32) :
    Creates t (.device (.outputCreate name pwmId)) .output ⟨t.cstr name, pwmId, uuid, 0⟩
  | outputWithUuid (name : Nat) (pwmId : UInt8) (uuid : UInt32) :
    Creates t (.device (.outputCreateWithUuid name pwmId uuid)) .output
      ⟨t.cstr name, pwmId, uuid, 0⟩
  | button (name : Nat) (pinId : UInt8) (debounceMs holdTimeMs uuid : UInt32) :
    Creates t (.device (.buttonCreate name pinId debounceMs holdTimeMs)) .button
      (.created (t.cstr name) pinId debounceMs holdTimeMs uuid)
  | buttonWithUuid (name : Nat) (pinId : UInt8) (debounceMs holdTimeMs uuid : UInt32) :
    Creates t (.device (.buttonCreateWithUuid name pinId debounceMs holdTimeMs uuid)) .button
      (.created (t.cstr name) pinId debounceMs holdTimeMs uuid)

/-- The call is given this device. -/
def BspOp.IsFor (r : Registry) (dev : Nat) (op : BspOp) : Prop := op.handle = some (r, dev)

/-- The call destroys this device. -/
def BspOp.Destroys (r : Registry) (dev : Nat) : BspOp → Prop
  | .device op => op.registry = r ∧ op.action = .destroy dev
  | _ => False

instance (r : Registry) (dev : Nat) : DecidablePred (BspOp.IsFor r dev) :=
  fun op => inferInstanceAs (Decidable (op.handle = some (r, dev)))

theorem BspOp.Destroys.isFor {r : Registry} {dev : Nat} {op : BspOp} (h : op.Destroys r dev) :
    op.IsFor r dev := by
  cases op with
  | device op =>
      obtain ⟨hr, ha⟩ := h
      rw [BspOp.IsFor, BspOp.handle, ha, hr]
  | _ => exact h.elim

/-- The pins a device drives. -/
def recordPins : (r : Registry) → r.Record → List UInt8
  | .led, led => [led.pinId]
  | .ledRgb, led => [led.led.pinR, led.led.pinG, led.led.pinB]
  | .output, _ => []
  | .button, _ => []

/-- The pins a device drives, as the members of its struct have them. -/
def devicePins (t : Target) (s : Devices) : Registry → Nat → List UInt8
  | .led, dev => [ledPinId t s dev]
  | .ledRgb, dev => [(ledRgbAt t s dev).pinR, (ledRgbAt t s dev).pinG, (ledRgbAt t s dev).pinB]
  | .output, _ => []
  | .button, _ => []

/-- The call is not given another device that drives one of this device's pins. -/
def KeepsOff (t : Target) (r : Registry) (dev : Nat) (w : BspWorld) (op : BspOp) : Prop :=
  ∀ h ∈ op.handle, h ≠ (r, dev) → h.2 ∈ w.live h.1 →
    ∀ p ∈ devicePins t w.devices r dev, p ∉ devicePins t w.devices h.1 h.2

instance (t : Target) (r : Registry) (dev : Nat) (w : BspWorld) (op : BspOp) :
    Decidable (KeepsOff t r dev w op) :=
  inferInstanceAs (Decidable (∀ h ∈ op.handle, _))

end FwCore
