import FwCore.Bsp.Registry

/-!
# PWM outputs: creation, lookup, destruction (`bsp/output.c`)
-/

namespace FwCore

open Lib

section

variable (t : Target) (fuel : Nat) (s : Devices)

/-- What a function reports when the pool is exhausted. -/
def outputLowMemory : UprintCall := ⟨"Low memory, cannot create output\r\n", []⟩

/-- `output_uuid_exists`. -/
def outputUuidExists (uuid : UInt32) : Option Bool := uuidExists t .output fuel s uuid.toNat

/-- `output_create`. -/
def outputCreate (name : Nat) (pwmId : UInt8) : Option DeviceResult :=
  deviceCreate t .output fuel s
    [(.name, name), (.pwmId, pwmId.toNat), (.duty, 0)]
    [.pwmInit pwmId]
    (fun m out => ⟨"*** %s created ***\r\n", [nameArg t .output m out]⟩)
    outputLowMemory

/-- `output_createWithUuid`. -/
def outputCreateWithUuid (name : Nat) (pwmId : UInt8) (uuid : UInt32) : Option DeviceResult :=
  deviceCreateWithUuid t .output fuel s uuid.toNat
    [(.name, name), (.pwmId, pwmId.toNat), (.uuid, uuid.toNat), (.duty, 0)]
    [.pwmInit pwmId]
    (fun m out =>
      ⟨"*** %s created with UUID %u ***\r\n", [nameArg t .output m out, uuidArg t .output m out]⟩)
    outputLowMemory
    ⟨"Failed to create %s: UUID %u already exists\r\n", [.str (t.cstr name), .unsigned uuid]⟩

/-- `output_getByUuid`. -/
def outputGetByUuid (uuid : UInt32) : Option Nat := getByUuid t .output fuel s uuid.toNat

/-- The instance a device drives. -/
def outputPwmId (out : Nat) : UInt8 := UInt8.ofNat (getField t .output s.mem out .pwmId)

/-- `output_set`. -/
def outputSet (out : Nat) (dutyPercent : UInt8) : Devices × List DeviceEvent :=
  if out = 0 then (s, [])
  else
    let dutyPercent := if dutyPercent > 100 then 100 else dutyPercent
    let s := { s with mem := setField t .output s.mem out .duty dutyPercent.toNat }
    (s, [.pwmSetDuty (outputPwmId t s out) dutyPercent])

/-- `output_on`. -/
def outputOn (out : Nat) : Devices × List DeviceEvent := outputSet t s out 100

/-- `output_off`. -/
def outputOff (out : Nat) : Devices × List DeviceEvent := outputSet t s out 0

/-- `output_destroy`: unlike the other kinds, the device is turned off first. -/
def outputDestroy (out : Nat) : Option DeviceResult :=
  if out = 0 then some ⟨0, s, []⟩
  else do
    let off := outputOff t s out
    let deinit : DeviceEvent := .pwmDeinit (outputPwmId t off.1 out)
    let r ← deviceDestroy t .output fuel off.1 out
    some { r with events := off.2 ++ [deinit] ++ r.events }

end

end FwCore
