import FwCore.Bsp.Output

/-!
# PWM outputs: queries and diagnostics (`bsp/output.c`)

`output_set`, `output_on` and `output_off` are in `Output.lean`, for `output_destroy`
uses them.
-/

namespace FwCore

open Lib

section

variable (t : Target) (s : Devices)

/-- `out->duty`. -/
def outputDuty (out : Nat) : UInt8 := UInt8.ofNat (getField t .output s.mem out .duty)

/-- `output_getDuty`. -/
def outputGetDuty (out : Nat) : UInt8 := if out = 0 then 0 else outputDuty t s out

/-- The arguments of the diagnostics. -/
def outputArgs (out : Nat) : List UprintArg :=
  [nameArg t .output s.mem out, uuidArg t .output s.mem out,
    .unsigned (outputDuty t s out).toUInt32]

/-- `output_displayInfo`. -/
def outputDisplayInfo (out : Nat) : List UprintCall :=
  if out = 0 then [] else [⟨"Output [%s] UUID=%u duty=%u%%\r\n", outputArgs t s out⟩]

/-- The line above and below the list. -/
def outputRule : UprintCall :=
  ⟨"************************************************************\r\n", []⟩

/-- The body of `output_displayAll`'s loop. -/
def outputDisplayLine (out : Nat) : UprintCall :=
  ⟨"  [%s] UUID=%u duty=%u%%\r\n", outputArgs t s out⟩

/-- `output_displayAll`. -/
def outputDisplayAll (fuel : Nat) : Option (List UprintCall) := do
  let its ← slistForEach t.ptrSize fuel s.mem (s.list .output).first
  some ([outputRule] ++ its.map (fun it => outputDisplayLine t s (containerOf t .output it))
    ++ [outputRule])

end

end FwCore
