import FwCore.Interface

/-!
# Driving an RGB LED (`bsp/led.c`, the control functions)

A control call is three calls of `IO_write`, red, green and blue in that order, and
it returns at the first one that fails. What the pins do is up to the board: a
`Pins` is the level at every pin, and a write that does not return `IO_OK` leaves it
as it is. `current_color` is assigned after the third write.

Pointers here are the non-`NULL` ones; every control function of the source returns
`IO_ERR_NULL` at once on `NULL`.
-/

namespace FwCore

/-- `led_rgb_color_e`. -/
inductive LedRgbColor where
  | off
  | red
  | green
  | blue
  | yellow
  | cyan
  | magenta
  | white
deriving DecidableEq, Repr

/-- The part of `struct led_rgb_t` the control functions read and write. -/
structure LedRgb where
  pinR : UInt8
  pinG : UInt8
  pinB : UInt8
  inverted : Bool
  currentColor : LedRgbColor
deriving DecidableEq, Repr

/-- The fields `led_rgb_create` and `led_rgb_createWithUuid` set. -/
def LedRgb.created (pinR pinG pinB : UInt8) : LedRgb where
  pinR := pinR
  pinG := pinG
  pinB := pinB
  inverted := false
  currentColor := .off

/-- The level at every pin of the board. -/
abbrev Pins : Type := UInt8 → UInt8

/-- `IO_write`, returning `status`. -/
def ioWrite (pins : Pins) (status : IoStatus) (pin value : UInt8) : IoStatus × Pins :=
  (status, if status = .ok then fun p => if p = pin then value else pins p else pins)

/-- What the three writes of a control call return, if the call gets to them. -/
structure RgbWrites where
  r : IoStatus
  g : IoStatus
  b : IoStatus
deriving DecidableEq, Repr

/-- `(c ^ led->inverted) ? IO_PIN_HIGH : IO_PIN_LOW`. -/
def LedRgb.level (led : LedRgb) (c : Bool) : UInt8 :=
  if c ^^ led.inverted then ioPinHigh else ioPinLow

/-- The writes of `led_rgb_set` and of `led_rgb_setRaw`, which are the same. -/
def ledRgbWrite (led : LedRgb) (pins : Pins) (w : RgbWrites) (r g b : Bool) : IoStatus × Pins :=
  let s := ioWrite pins w.r led.pinR (led.level r)
  if s.1 ≠ .ok then s
  else
    let s := ioWrite s.2 w.g led.pinG (led.level g)
    if s.1 ≠ .ok then s
    else ioWrite s.2 w.b led.pinB (led.level b)

/-- What a control call leaves behind. -/
structure RgbResult where
  status : IoStatus
  led : LedRgb
  pins : Pins

/-- `led_rgb_set`. -/
def ledRgbSet (led : LedRgb) (pins : Pins) (w : RgbWrites) (color : LedRgbColor) : RgbResult :=
  let r := color = .red || color = .yellow || color = .magenta || color = .white
  let g := color = .green || color = .yellow || color = .cyan || color = .white
  let b := color = .blue || color = .cyan || color = .magenta || color = .white
  let s := ledRgbWrite led pins w r g b
  if s.1 ≠ .ok then ⟨s.1, led, s.2⟩
  else ⟨.ok, { led with currentColor := color }, s.2⟩

/-- `led_rgb_setRaw`. -/
def ledRgbSetRaw (led : LedRgb) (pins : Pins) (w : RgbWrites) (r g b : Bool) : RgbResult :=
  let s := ledRgbWrite led pins w r g b
  if s.1 ≠ .ok then ⟨s.1, led, s.2⟩
  else
    let color := LedRgbColor.off
    let color := if r && !g && !b then .red else color
    let color := if !r && g && !b then .green else color
    let color := if !r && !g && b then .blue else color
    let color := if r && g && !b then .yellow else color
    let color := if !r && g && b then .cyan else color
    let color := if r && !g && b then .magenta else color
    let color := if r && g && b then .white else color
    ⟨.ok, { led with currentColor := color }, s.2⟩

/-- `led_rgb_off`. -/
def ledRgbOff (led : LedRgb) (pins : Pins) (w : RgbWrites) : RgbResult :=
  ledRgbSet led pins w .off

/-- `led_rgb_getColor`. -/
def ledRgbGetColor (led : LedRgb) : LedRgbColor := led.currentColor

/-- `led_rgb_toggle`. -/
def ledRgbToggle (led : LedRgb) (pins : Pins) (w : RgbWrites) (color : LedRgbColor) : RgbResult :=
  if led.currentColor = .off then ledRgbSet led pins w color else ledRgbSet led pins w .off

/-- `led_rgb_invertLogic`. -/
def ledRgbInvertLogic (led : LedRgb) : LedRgb := { led with inverted := true }

/-! ## Runs -/

/-- A control call. -/
inductive RgbOp where
  | set (color : LedRgbColor)
  | setRaw (r g b : Bool)
  | off
  | toggle (color : LedRgbColor)
deriving DecidableEq, Repr

/-- A control call, and what its writes return. -/
structure RgbCall where
  op : RgbOp
  writes : RgbWrites
deriving DecidableEq, Repr

/-- One control call. -/
def ledRgbCall (led : LedRgb) (pins : Pins) (call : RgbCall) : RgbResult :=
  match call.op with
  | .set color => ledRgbSet led pins call.writes color
  | .setRaw r g b => ledRgbSetRaw led pins call.writes r g b
  | .off => ledRgbOff led pins call.writes
  | .toggle color => ledRgbToggle led pins call.writes color

/-- The LED and the pins after a run of control calls. -/
def ledRgbRun (led : LedRgb) (pins : Pins) (calls : List RgbCall) : LedRgb × Pins :=
  calls.foldl (fun s call => ((ledRgbCall s.1 s.2 call).led, (ledRgbCall s.1 s.2 call).pins))
    (led, pins)

end FwCore
