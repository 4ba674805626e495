import FwCore.Bsp.Registry

/-!
# LEDs and RGB LEDs: creation, lookup, destruction (`bsp/led.c`)
-/

namespace FwCore

open Lib

/-- `LED_RGB_COLOR_OFF`. -/
def ledRgbColorOff : Nat := 0

section

variable (t : Target) (fuel : Nat) (s : Devices)

/-- What a function reports when the pool is exhausted. -/
def ledLowMemory : UprintCall := ⟨"Low memory, cannot create device\r\n", []⟩

/-! ## Single LED -/

/-- `led_uuid_exists`. -/
def ledUuidExists (uuid : UInt32) : Option Bool := uuidExists t .led fuel s uuid.toNat

/-- `led_create`. -/
def ledCreate (name : Nat) (pinId : UInt8) : Option DeviceResult :=
  deviceCreate t .led fuel s
    [(.name, name), (.pinId, pinId.toNat), (.inverted, 0)]
    []
    (fun m led =>
      ⟨"*** %s created (UUID %u) ***\r\n", [nameArg t .led m led, uuidArg t .led m led]⟩)
    ledLowMemory

/-- `led_createWithUuid`. -/
def ledCreateWithUuid (name : Nat) (pinId : UInt8) (uuid : UInt32) : Option DeviceResult :=
  deviceCreateWithUuid t .led fuel s uuid.toNat
    [(.name, name), (.pinId, pinId.toNat), (.uuid, uuid.toNat), (.inverted, 0)]
    []
    (fun m led =>
      ⟨"*** %s created with UUID %lu ***\r\n", [nameArg t .led m led, uuidArg t .led m led]⟩)
    ledLowMemory
    ⟨"Failed to create %s: UUID %u already exists\r\n", [.str (t.cstr name), .unsigned uuid]⟩

/-- `led_destroy`. -/
def ledDestroy (led : Nat) : Option DeviceResult :=
  if led = 0 then some ⟨0, s, []⟩ else deviceDestroy t .led fuel s led

/-- `led_getByUuid`. -/
def ledGetByUuid (uuid : UInt32) : Option Nat := getByUuid t .led fuel s uuid.toNat

/-! ## RGB LED -/

/-- `rgb_uuid_exists`. -/
def rgbUuidExists (uuid : UInt8) : Option Bool := uuidExists t .ledRgb fuel s uuid.toNat

/-- `led_rgb_create`. -/
def ledRgbCreate (name : Nat) (pinR pinG pinB : UInt8) : Option DeviceResult :=
  deviceCreate t .ledRgb fuel s
    [(.name, name), (.pinR, pinR.toNat), (.pinG, pinG.toNat), (.pinB, pinB.toNat), (.inverted, 0),
      (.currentColor, ledRgbColorOff)]
    []
    (fun m led =>
      ⟨"*** %s created (UUID %u) ***\r\n", [nameArg t .ledRgb m led, uuidArg t .ledRgb m led]⟩)
    ledLowMemory

/-- `led_rgb_createWithUuid`. -/
def ledRgbCreateWithUuid (name : Nat) (pinR pinG pinB uuid : UInt8) : Option DeviceResult :=
  deviceCreateWithUuid t .ledRgb fuel s uuid.toNat
    [(.name, name), (.pinR, pinR.toNat), (.pinG, pinG.toNat), (.pinB, pinB.toNat),
      (.uuid, uuid.toNat), (.inverted, 0), (.currentColor, ledRgbColorOff)]
    []
    (fun m led =>
      ⟨"*** %s created with UUID %u ***\r\n", [nameArg t .ledRgb m led, uuidArg t .ledRgb m led]⟩)
    ledLowMemory
    ⟨"Failed to create %s: UUID %u already exists\r\n",
      [.str (t.cstr name), .unsigned (UInt32.ofNat uuid.toNat)]⟩

/-- `led_rgb_destroy`. -/
def ledRgbDestroy (led : Nat) : Option DeviceResult :=
  if led = 0 then some ⟨0, s, []⟩ else deviceDestroy t .ledRgb fuel s led

/-- `led_rgb_getByUuid`. -/
def ledRgbGetByUuid (uuid : UInt8) : Option Nat := getByUuid t .ledRgb fuel s uuid.toNat

end

end FwCore
