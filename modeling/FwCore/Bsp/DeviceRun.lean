import FwCore.Bsp.Led
import FwCore.Bsp.Output
import FwCore.Bsp.ButtonRegistry

/-!
# Programs that create and destroy devices

The calls of the four kinds of device, in any order, from the state after
`pool_Init` and `poolBig_Init`. `DeviceWorld.live` is a ghost: the handles handed
out and not destroyed, newest first, as the callers see them.
-/

namespace FwCore

open Lib

/-- The creating and destroying calls. -/
inductive DeviceOp where
  | ledCreate (name : Nat) (pinId : UInt8)
  | ledCreateWithUuid (name : Nat) (pinId : UInt8) (uuid : UInt32)
  | ledDestroy (led : Nat)
  | ledRgbCreate (name : Nat) (pinR pinG pinB : UInt8)
  | ledRgbCreateWithUuid (name : Nat) (pinR pinG pinB uuid : UInt8)
  | ledRgbDestroy (led : Nat)
  | outputCreate (name : Nat) (pwmId : UInt8)
  | outputCreateWithUuid (name : Nat) (pwmId : UInt8) (uuid : UInt32)
  | outputDestroy (out : Nat)
  | buttonCreate (name : Nat) (pinId : UInt8) (debounceMs holdTimeMs : UInt32)
  | buttonCreateWithUuid (name : Nat) (pinId : UInt8) (debounceMs holdTimeMs uuid : UInt32)
  | buttonDestroy (btn : Nat)
deriving DecidableEq, Repr

/-- What a call is about, whatever the kind. -/
inductive DeviceAction where
  | create
  | createWithUuid (uuid : Nat)
  | destroy (dev : Nat)
deriving DecidableEq, Repr

/-- The registry a call is on. -/
def DeviceOp.registry : DeviceOp → Registry
  | .ledCreate .. | .ledCreateWithUuid .. | .ledDestroy .. => .led
  | .ledRgbCreate .. | .ledRgbCreateWithUuid .. | .ledRgbDestroy .. => .ledRgb
  | .outputCreate .. | .outputCreateWithUuid .. | .outputDestroy .. => .output
  | .buttonCreate .. | .buttonCreateWithUuid .. | .buttonDestroy .. => .button

/-- What it does there. -/
def DeviceOp.action : DeviceOp → DeviceAction
  | .ledCreate .. | .ledRgbCreate .. | .outputCreate .. | .buttonCreate .. => .create
  | .ledCreateWithUuid _ _ uuid => .createWithUuid uuid.toNat
  | .ledRgbCreateWithUuid _ _ _ _ uuid => .createWithUuid uuid.toNat
  | .outputCreateWithUuid _ _ uuid => .createWithUuid uuid.toNat
  | .buttonCreateWithUuid _ _ _ _ uuid => .createWithUuid uuid.toNat
  | .ledDestroy dev | .ledRgbDestroy dev | .outputDestroy dev | .buttonDestroy dev => .destroy dev

/-- One call. -/
def deviceCall (t : Target) (fuel : Nat) (s : Devices) : DeviceOp → Option DeviceResult
  | .ledCreate name pinId => ledCreate t fuel s name pinId
  | .ledCreateWithUuid name pinId uuid => ledCreateWithUuid t fuel s name pinId uuid
  | .ledDestroy led => ledDestroy t fuel s led
  | .ledRgbCreate name pinR pinG pinB => ledRgbCreate t fuel s name pinR pinG pinB
  | .ledRgbCreateWithUuid name pinR pinG pinB uuid =>
    ledRgbCreateWithUuid t fuel s name pinR pinG pinB uuid
  | .ledRgbDestroy led => ledRgbDestroy t fuel s led
  | .outputCreate name pwmId => outputCreate t fuel s name pwmId
  | .outputCreateWithUuid name pwmId uuid => outputCreateWithUuid t fuel s name pwmId uuid
  | .outputDestroy out => outputDestroy t fuel s out
  | .buttonCreate name pinId debounceMs holdTimeMs =>
    buttonCreate t fuel s name pinId debounceMs holdTimeMs
  | .buttonCreateWithUuid name pinId debounceMs holdTimeMs uuid =>
    buttonCreateWithUuid t fuel s name pinId debounceMs holdTimeMs uuid
  | .buttonDestroy btn => buttonDestroy t fuel s btn

/-- The uuid counters at startup: `s_uuid_count` in each file, and `s_uuid_rgb_count`. -/
def Registry.firstUuid : Registry → Nat
  | .led => 0
  | _ => 1

/-- The state after `pool_Init` and `poolBig_Init`; the lists are zero-initialised. -/
def Devices.init (t : Target) (m : Mem) : Devices :=
  let small := poolInit t.ptrSize (t.pool .small) m
  let big := poolBigInit t.ptrSize (t.pool .big) small.1
  { mem := big.1
    freelist := fun | .small => small.2 | .big => big.2
    list := fun _ => ⟨0, 0⟩
    uuidCount := Registry.firstUuid }

/-- The devices, and the handles their callers hold. -/
structure DeviceWorld where
  devices : Devices
  /-- Ghost: the live devices of each kind. -/
  live : Registry → List Nat

/-- The handles after a call on registry `r` that returned `ret`. -/
def liveAfter (live : Registry → List Nat) (r : Registry) (ret : Nat) :
    DeviceAction → Registry → List Nat
  | .destroy dev => Function.update live r ((live r).erase dev)
  | _ => if ret = 0 then live else Function.update live r (ret :: live r)

/-- One call, with the handles kept up to date. -/
def DeviceWorld.call (t : Target) (fuel : Nat) (w : DeviceWorld) (op : DeviceOp) :
    Option DeviceWorld := do
  let r ← deviceCall t fuel w.devices op
  some ⟨r.devices, liveAfter w.live op.registry r.ret op.action⟩

/-- A sequence of calls. -/
def DeviceWorld.run (t : Target) (fuel : Nat) (w : DeviceWorld) : List DeviceOp → Option DeviceWorld
  | [] => some w
  | op :: ops => do
    let w ← w.call t fuel op
    w.run t fuel ops

end FwCore
