import FwCore.Bsp.Led
import FwCore.Bsp.LedRgb

/-!
# LEDs and RGB LEDs: configuration, control, diagnostics (`bsp/led.c`)

These functions are given a handle, which may be null, and read and assign the
members of the struct it leads to. What an RGB LED is driven to is in `LedRgb.lean`,
as functions of the members; here are the functions themselves.

What `IO_toggle` does to a pin is up to the board, as `IO_write` is: if it returns
`IO_OK` the level is the other one, and otherwise the same.
-/

namespace FwCore

open Lib

/-- `IO_toggle`, returning `status`. -/
def ioToggle (pins : Pins) (status : IoStatus) (pin : UInt8) : IoStatus × Pins :=
  (status, if status = .ok then
      fun p => if p = pin then (if pins p = ioPinLow then ioPinHigh else ioPinLow) else pins p
    else pins)

/-- The values of `led_rgb_color_e`. -/
def LedRgbColor.code : LedRgbColor → Nat
  | .off => 0
  | .red => 1
  | .green => 2
  | .blue => 3
  | .yellow => 4
  | .cyan => 5
  | .magenta => 6
  | .white => 7

/-- The color with a value; any other value is treated as `LED_RGB_COLOR_OFF`. -/
def ledRgbColorOf : Nat → LedRgbColor
  | 1 => .red
  | 2 => .green
  | 3 => .blue
  | 4 => .yellow
  | 5 => .cyan
  | 6 => .magenta
  | 7 => .white
  | _ => .off

@[simp] theorem ledRgbColorOf_code (c : LedRgbColor) : ledRgbColorOf c.code = c := by
  cases c <;> rfl

section

variable (t : Target) (s : Devices)

/-! ## Single LED -/

/-- `led->pin_id`. -/
def ledPinId (led : Nat) : UInt8 := UInt8.ofNat (getField t .led s.mem led .pinId)

/-- `led->inverted`. -/
def ledInverted (led : Nat) : Bool := getField t .led s.mem led .inverted != 0

/-- `led_invertLogic`. -/
def ledInvertLogic (led : Nat) : IoStatus × Devices :=
  if led = 0 then (.errNull, s)
  else (.ok, { s with mem := setField t .led s.mem led .inverted 1 })

/-- `led_turn_on`. -/
def ledTurnOn (pins : Pins) (status : IoStatus) (led : Nat) : IoStatus × Pins :=
  if led = 0 then (.errNull, pins)
  else
    ioWrite pins status (ledPinId t s led) (if ledInverted t s led then ioPinLow else ioPinHigh)

/-- `led_turn_off`. -/
def ledTurnOff (pins : Pins) (status : IoStatus) (led : Nat) : IoStatus × Pins :=
  if led = 0 then (.errNull, pins)
  else
    ioWrite pins status (ledPinId t s led) (if ledInverted t s led then ioPinHigh else ioPinLow)

/-- `led_toggle`. -/
def ledToggle (pins : Pins) (status : IoStatus) (led : Nat) : IoStatus × Pins :=
  if led = 0 then (.errNull, pins) else ioToggle pins status (ledPinId t s led)

/-- `led_displayInfo`. -/
def ledDisplayInfo (led : Nat) : List UprintCall :=
  if led = 0 then []
  else
    [⟨"Device: %s | UUID: %u | pin_id: %u\r\n",
      [nameArg t .led s.mem led, uuidArg t .led s.mem led,
        .unsigned (ledPinId t s led).toUInt32]⟩]

/-- The body of `led_displayAll`'s loop. -/
def ledDisplayLine (led : Nat) : UprintCall :=
  ⟨"  %s (UUID: %u, pin_id: %u)\r\n",
    [nameArg t .led s.mem led, uuidArg t .led s.mem led, .unsigned (ledPinId t s led).toUInt32]⟩

/-- `led_displayAll`: what it prints, one message for each node. -/
def ledDisplayAll (fuel : Nat) : Option (List UprintCall) := do
  let its ← slistForEach t.ptrSize fuel s.mem (s.list .led).first
  some (its.map fun it => ledDisplayLine t s (containerOf t .led it))

/-! ## RGB LED -/

/-- The pin `led->pin_r`, `led->pin_g` or `led->pin_b`. -/
def ledRgbPin (led : Nat) (f : Field) : UInt8 := UInt8.ofNat (getField t .ledRgb s.mem led f)

/-- The members the control functions read. -/
def ledRgbAt (led : Nat) : LedRgb where
  pinR := ledRgbPin t s led .pinR
  pinG := ledRgbPin t s led .pinG
  pinB := ledRgbPin t s led .pinB
  inverted := getField t .ledRgb s.mem led .inverted != 0
  currentColor := ledRgbColorOf (getField t .ledRgb s.mem led .currentColor)

/-- What a control function leaves behind: `current_color` is assigned if all went well. -/
def ledRgbAssign (led : Nat) (r : RgbResult) : IoStatus × Devices × Pins :=
  if r.status ≠ .ok then (r.status, s, r.pins)
  else
    (r.status, { s with
      mem := setField t .ledRgb s.mem led .currentColor r.led.currentColor.code }, r.pins)

/-- `led_rgb_invertLogic`. -/
def ledRgbInvertLogicAt (led : Nat) : IoStatus × Devices :=
  if led = 0 then (.errNull, s)
  else (.ok, { s with mem := setField t .ledRgb s.mem led .inverted 1 })

/-- `led_rgb_set`. -/
def ledRgbSetAt (pins : Pins) (w : RgbWrites) (led : Nat) (color : LedRgbColor) :
    IoStatus × Devices × Pins :=
  if led = 0 then (.errNull, s, pins)
  else ledRgbAssign t s led (ledRgbSet (ledRgbAt t s led) pins w color)

/-- `led_rgb_setRaw`. -/
def ledRgbSetRawAt (pins : Pins) (w : RgbWrites) (led : Nat) (r g b : Bool) :
    IoStatus × Devices × Pins :=
  if led = 0 then (.errNull, s, pins)
  else ledRgbAssign t s led (ledRgbSetRaw (ledRgbAt t s led) pins w r g b)

/-- `led_rgb_off`. -/
def ledRgbOffAt (pins : Pins) (w : RgbWrites) (led : Nat) : IoStatus × Devices × Pins :=
  ledRgbSetAt t s pins w led .off

/-- `led_rgb_getColor`. -/
def ledRgbGetColorAt (led : Nat) : LedRgbColor :=
  if led = 0 then .off else (ledRgbAt t s led).currentColor

/-- `led_rgb_toggle`. -/
def ledRgbToggleAt (pins : Pins) (w : RgbWrites) (led : Nat) (color : LedRgbColor) :
    IoStatus × Devices × Pins :=
  if led = 0 then (.errNull, s, pins)
  else if (ledRgbAt t s led).currentColor = .off then ledRgbSetAt t s pins w led color
  else ledRgbSetAt t s pins w led .off

/-- `led_rgb_displayInfo`. -/
def ledRgbDisplayInfo (led : Nat) : List UprintCall :=
  if led = 0 then []
  else
    [⟨"Device: %s | UUID: %u | pins R:%u G:%u B:%u\r\n",
      [nameArg t .ledRgb s.mem led, uuidArg t .ledRgb s.mem led,
        .unsigned (ledRgbPin t s led .pinR).toUInt32,
        .unsigned (ledRgbPin t s led .pinG).toUInt32,
        .unsigned (ledRgbPin t s led .pinB).toUInt32]⟩]

/-- The body of `led_rgb_displayAll`'s loop. -/
def ledRgbDisplayLine (led : Nat) : UprintCall :=
  ⟨"  %s (UUID: %u)\r\n", [nameArg t .ledRgb s.mem led, uuidArg t .ledRgb s.mem led]⟩

/-- `led_rgb_displayAll`. -/
def ledRgbDisplayAll (fuel : Nat) : Option (List UprintCall) := do
  let its ← slistForEach t.ptrSize fuel s.mem (s.list .ledRgb).first
  some (its.map fun it => ledRgbDisplayLine t s (containerOf t .ledRgb it))

end

end FwCore
