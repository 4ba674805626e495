import FwCore.Bsp.Registry

/-!
# Buttons: creation, lookup, destruction (`bsp/button.c`)

A new button is in `BTN_STATE_IDLE` with `BUTTON_EVENT_NONE` pending, both zero.
Its two timers are not set up until `button_update` does so.
-/

namespace FwCore

open Lib

/-- `BTN_STATE_IDLE`. -/
def btnStateIdle : Nat := 0

/-- `BUTTON_EVENT_NONE`. -/
def buttonEventNone : Nat := 0

section

variable (t : Target) (fuel : Nat) (s : Devices)

/-- What a function reports when the pool is exhausted. -/
def buttonLowMemory : UprintCall := ⟨"Low memory, cannot create device\r\n", []⟩

/-- `btn_uuid_exists`. -/
def btnUuidExists (uuid : UInt32) : Option Bool := uuidExists t .button fuel s uuid.toNat

/-- `button_create`. -/
def buttonCreate (name : Nat) (pinId : UInt8) (debounceMs holdTimeMs : UInt32) :
    Option DeviceResult :=
  deviceCreate t .button fuel s
    [(.name, name), (.pinId, pinId.toNat), (.inverted, 0), (.debounceMs, debounceMs.toNat),
      (.holdTimeMs, holdTimeMs.toNat), (.state, btnStateIdle), (.pendingEvent, buttonEventNone),
      (.isPressed, 0)]
    []
    (fun m btn => ⟨"*** %s created ***\r\n", [nameArg t .button m btn]⟩)
    buttonLowMemory

/-- `button_createWithUuid`. -/
def buttonCreateWithUuid (name : Nat) (pinId : UInt8) (debounceMs holdTimeMs uuid : UInt32) :
    Option DeviceResult :=
  deviceCreateWithUuid t .button fuel s uuid.toNat
    [(.name, name), (.pinId, pinId.toNat), (.uuid, uuid.toNat), (.inverted, 0),
      (.debounceMs, debounceMs.toNat), (.holdTimeMs, holdTimeMs.toNat), (.state, btnStateIdle),
      (.pendingEvent, buttonEventNone), (.isPressed, 0)]
    []
    (fun m btn =>
      ⟨"*** %s created with UUID %lu ***\r\n", [nameArg t .button m btn, uuidArg t .button m btn]⟩)
    buttonLowMemory
    ⟨"Failed to create %s: UUID %lu already exists\r\n", [.str (t.cstr name), .unsigned uuid]⟩

/-- `button_destroy`. -/
def buttonDestroy (btn : Nat) : Option DeviceResult :=
  if btn = 0 then some ⟨0, s, []⟩ else deviceDestroy t .button fuel s btn

/-- `button_getByUuid`. -/
def buttonGetByUuid (uuid : UInt32) : Option Nat := getByUuid t .button fuel s uuid.toNat

/-- The body of `button_displayAll`'s loop. -/
def buttonDisplayLine (btn : Nat) : UprintCall :=
  ⟨"  %s (UUID: %lu)\r\n", [nameArg t .button s.mem btn, uuidArg t .button s.mem btn]⟩

/-- `button_displayAll`: what it prints, one message for each node. -/
def buttonDisplayAll : Option (List UprintCall) := do
  let its ← slistForEach t.ptrSize fuel s.mem (s.list .button).first
  some (its.map fun it => buttonDisplayLine t s (containerOf t .button it))

end

end FwCore
