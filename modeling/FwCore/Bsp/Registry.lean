import FwCore.Shared.Pool
import FwCore.Shared.Slist
import FwCore.Core.Uprint

/-!
# Devices in memory, and what their registries share

`bsp/led.c`, `bsp/output.c` and `bsp/button.c` keep each kind of device the same
way: the device is a struct in a pool block, linked through its `node` into a list
of its kind, and known by a `uuid`. This module has what the kinds share. The
functions of the source are in the modules named after their files, each in terms
of what is here.

A struct is a set of fields at offsets, in the bytes of its block; which offsets,
and how wide a pointer or an `enum` is, is up to the target. Fields that no
function here touches (the timers of a button) have no place in it.
-/

namespace FwCore

open Lib

/-- The kinds of device, each with a registry of its own. -/
inductive Registry where
  | led
  | ledRgb
  | output
  | button
deriving DecidableEq, Repr

/-- The two pools. -/
inductive PoolId where
  | small
  | big
deriving DecidableEq, Repr

/-- The pool a kind of device is allocated from. -/
def Registry.pool : Registry → PoolId
  | .led | .ledRgb | .output => .small
  | .button => .big

/-- The size of a pool's blocks. -/
def PoolId.blockSize : PoolId → UInt32
  | .small => poolBlockSize
  | .big => poolBigBlockSize

/-- The number of a pool's blocks. -/
def PoolId.blockCount : PoolId → UInt32
  | .small => poolBlockCount
  | .big => poolBigBlockCount

/-- The fields of the device structs. -/
inductive Field where
  | name
  | pinId
  | pinR
  | pinG
  | pinB
  | pwmId
  | uuid
  | inverted
  | currentColor
  | duty
  | debounceMs
  | holdTimeMs
  | state
  | pendingEvent
  | isPressed
  | node
deriving DecidableEq, Repr

/-- The fields of `struct led_t`, `led_rgb_t`, `output_t` and `button_t`. -/
def Registry.fields : Registry → List Field
  | .led => [.name, .pinId, .uuid, .inverted, .node]
  | .ledRgb => [.name, .pinR, .pinG, .pinB, .uuid, .inverted, .currentColor, .node]
  | .output => [.name, .pwmId, .uuid, .duty, .node]
  | .button => [.name, .pinId, .uuid, .inverted, .debounceMs, .holdTimeMs, .state,
      .pendingEvent, .isPressed, .node]

/-- The width of a kind's `uuid`, and of the counter that hands them out. -/
def Registry.uuidBytes : Registry → Nat
  | .ledRgb => 1
  | _ => 4

/-- How wide a field is, for pointers and `enum`s of the given widths. -/
def Field.width (ptrSize enumSize : Nat) (r : Registry) : Field → Nat
  | .name | .node => ptrSize
  | .uuid => r.uuidBytes
  | .debounceMs | .holdTimeMs => 4
  | .currentColor | .state | .pendingEvent => enumSize
  | _ => 1

/-- What a pool at address `pool` is set up with. -/
def PoolId.config (p : PoolId) (pool : Nat) : PoolConfig := ⟨pool, p.blockCount, p.blockSize⟩

/-- What the target decides: widths, layouts, and where the pools are. -/
structure Target where
  ptrSize : Nat
  enumSize : Nat
  sizeOf : Registry → Nat
  offset : Registry → Field → Nat
  /-- `&memPool.pool` and `&memPoolBig.pool`. -/
  pool : PoolId → Nat
  /-- The string a pointer leads to. -/
  cstr : Nat → Option CStr
  ptr_pos : 0 < ptrSize
  /-- A field lies inside its struct. -/
  inside : ∀ r, ∀ f ∈ r.fields, offset r f + f.width ptrSize enumSize r ≤ sizeOf r
  /-- Two fields of a struct do not overlap. -/
  apart : ∀ r, ∀ f ∈ r.fields, ∀ g ∈ r.fields, f ≠ g →
    offset r f + f.width ptrSize enumSize r ≤ offset r g
      ∨ offset r g + g.width ptrSize enumSize r ≤ offset r f
  /-- A struct fits its block. -/
  fits_block : ∀ r, sizeOf r ≤ r.pool.blockSize.toNat
  /-- The pools are not at address zero. -/
  pool_pos : ∀ p : PoolId, 0 < pool p
  /-- They lie within the address space. -/
  pool_in_space : ∀ p : PoolId, (p.config (pool p)).poolEnd ≤ 256 ^ ptrSize
  /-- They do not overlap. -/
  pools_apart : (PoolId.small.config (pool .small)).poolEnd ≤ pool .big
    ∨ (PoolId.big.config (pool .big)).poolEnd ≤ pool .small

/-- The pools, the lists and the uuid counters of the whole library. -/
structure Devices where
  mem : Mem
  freelist : PoolId → Nat
  list : Registry → SlistHead
  uuidCount : Registry → Nat

/-- What a device function does outside the library. -/
inductive DeviceEvent where
  | uprint (call : UprintCall)
  | pwmInit (instanceId : UInt8)
  | pwmSetDuty (instanceId dutyPercent : UInt8)
  | pwmDeinit (instanceId : UInt8)
deriving DecidableEq, Repr

/-- What a call returns, the devices afterwards, and what else it did. -/
structure DeviceResult where
  ret : Nat
  devices : Devices
  events : List DeviceEvent

section

variable (t : Target)

/-! ## Fields -/

def Target.width (r : Registry) (f : Field) : Nat := f.width t.ptrSize t.enumSize r

/-- `dev->f`. -/
def getField (r : Registry) (m : Mem) (dev : Nat) (f : Field) : Nat :=
  m.load (dev + t.offset r f) (t.width r f)

/-- `dev->f = v`. -/
def setField (r : Registry) (m : Mem) (dev : Nat) (f : Field) (v : Nat) : Mem :=
  m.store (dev + t.offset r f) (t.width r f) v

/-- A run of assignments to fields, in order. -/
def setFields (r : Registry) (m : Mem) (dev : Nat) (fs : List (Field × Nat)) : Mem :=
  fs.foldl (fun m fv => setField t r m dev fv.1 fv.2) m

/-- `container_of(it, struct .., node)`. -/
def containerOf (r : Registry) (it : Nat) : Nat := it - t.offset r .node

/-- A `%s` argument: the string the device's `name` leads to. -/
def nameArg (r : Registry) (m : Mem) (dev : Nat) : UprintArg :=
  .str (t.cstr (getField t r m dev .name))

/-- A `%u` argument: the device's `uuid`. -/
def uuidArg (r : Registry) (m : Mem) (dev : Nat) : UprintArg :=
  .unsigned (UInt32.ofNat (getField t r m dev .uuid))

/-! ## The pools -/

/-- `pool_Allocate` or `poolBig_Allocate`. -/
def Devices.allocate (s : Devices) (p : PoolId) : Nat × Devices :=
  let r := match p with
    | .small => poolAllocate t.ptrSize s.mem (s.freelist .small)
    | .big => poolBigAllocate t.ptrSize s.mem (s.freelist .big)
  (r.1, { s with mem := r.2.1, freelist := Function.update s.freelist p r.2.2 })

/-- `pool_Free` or `poolBig_Free`. -/
def Devices.free (s : Devices) (p : PoolId) (ptr : Nat) : Devices :=
  let r := match p with
    | .small => poolFree t.ptrSize (t.pool .small) s.mem ptr (s.freelist .small)
    | .big => poolBigFree t.ptrSize (t.pool .big) s.mem ptr (s.freelist .big)
  { s with mem := r.1, freelist := Function.update s.freelist p r.2 }

/-- `pool_GetFreeBlockCount` or `poolBig_GetFreeBlockCount`. -/
def Devices.freeBlockCount (fuel : Nat) (s : Devices) (p : PoolId) : Option UInt32 :=
  match p with
  | .small => poolGetFreeBlockCount t.ptrSize fuel s.mem (s.freelist .small)
  | .big => poolBigGetFreeBlockCount t.ptrSize fuel s.mem (s.freelist .big)

/-! ## The lists and the uuids -/

/-- `slist_push_front(&list, &dev->node)`. -/
def Devices.pushFront (s : Devices) (r : Registry) (dev : Nat) : Devices :=
  let q := slistPushFront t.ptrSize s.mem (s.list r) (dev + t.offset r .node)
  { s with mem := q.1, list := Function.update s.list r q.2 }

/-- `slist_remove(&list, &dev->node)`. -/
def Devices.remove (fuel : Nat) (s : Devices) (r : Registry) (dev : Nat) : Option Devices := do
  let q ← slistRemove t.ptrSize fuel s.mem (s.list r) (dev + t.offset r .node)
  some { s with mem := q.1, list := Function.update s.list r q.2 }

/-- The node of the first listed device with this uuid, or null. -/
def uuidNode (r : Registry) (fuel : Nat) (s : Devices) (uuid : Nat) : Option Nat :=
  slistFind t.ptrSize (fun it => getField t r s.mem (containerOf t r it) .uuid == uuid)
    fuel s.mem (s.list r).first

/-- The common body of the `uuid_exists` functions. -/
def uuidExists (r : Registry) (fuel : Nat) (s : Devices) (uuid : Nat) : Option Bool := do
  let it ← uuidNode t r fuel s uuid
  some (it != 0)

/-- The common body of the `getByUuid` functions. -/
def getByUuid (r : Registry) (fuel : Nat) (s : Devices) (uuid : Nat) : Option Nat := do
  let it ← uuidNode t r fuel s uuid
  some (if it = 0 then 0 else containerOf t r it)

/-- `s_uuid_count++`, at the counter's own width. -/
def Devices.bumpUuid (s : Devices) (r : Registry) : Devices :=
  { s with uuidCount := Function.update s.uuidCount r ((s.uuidCount r + 1) % 256 ^ r.uuidBytes) }

@[simp] theorem bumpUuid_count (s : Devices) (r : Registry) :
    (s.bumpUuid r).uuidCount r = (s.uuidCount r + 1) % 256 ^ r.uuidBytes := Function.update_self ..

/-- `while (uuid_exists(s_uuid_count)) s_uuid_count++;`, for at most `n` tests. -/
def searchUuid (r : Registry) (fuel : Nat) : Nat → Devices → Option Devices
  | 0, _ => none
  | n + 1, s => do
    let taken ← uuidExists t r fuel s (s.uuidCount r)
    if taken then searchUuid r fuel n (s.bumpUuid r) else some s

/-! ## Creation and destruction -/

/--
The common body of the `create` functions: `fields` are the assignments before
the uuid is chosen, `early` and `report` what the function does outside before and
after the device is linked.
-/
def deviceCreate (r : Registry) (fuel : Nat) (s : Devices) (fields : List (Field × Nat))
    (early : List DeviceEvent) (report : Mem → Nat → UprintCall) (lowMemory : UprintCall) :
    Option DeviceResult :=
  let a := s.allocate t r.pool
  let dev := a.1
  let s := a.2
  if dev = 0 then some ⟨0, s, [.uprint lowMemory]⟩
  else do
    let s := { s with mem := setFields t r s.mem dev fields }
    let s ← searchUuid t r fuel fuel s
    let s := { s with mem := setField t r s.mem dev .uuid (s.uuidCount r) }
    let s := (s.bumpUuid r).pushFront t r dev
    some ⟨dev, s, early ++ [.uprint (report s.mem dev)]⟩

/-- The common body of the `createWithUuid` functions; `fields` includes the uuid. -/
def deviceCreateWithUuid (r : Registry) (fuel : Nat) (s : Devices) (uuid : Nat)
    (fields : List (Field × Nat)) (early : List DeviceEvent) (report : Mem → Nat → UprintCall)
    (lowMemory duplicate : UprintCall) : Option DeviceResult := do
  let taken ← uuidExists t r fuel s uuid
  if taken then some ⟨0, s, [.uprint duplicate]⟩
  else
    let a := s.allocate t r.pool
    let dev := a.1
    let s := a.2
    if dev = 0 then some ⟨0, s, [.uprint lowMemory]⟩
    else
      let s := { s with mem := setFields t r s.mem dev fields }
      let s := s.pushFront t r dev
      some ⟨dev, s, early ++ [.uprint (report s.mem dev)]⟩

/-- The common tail of the `destroy` functions: report, unlink, and give the block back. -/
def deviceDestroy (r : Registry) (fuel : Nat) (s : Devices) (dev : Nat) : Option DeviceResult := do
  let report : UprintCall := ⟨"*** %s destroyed ***\r\n", [nameArg t r s.mem dev]⟩
  let s ← s.remove t fuel r dev
  some ⟨0, s.free t r.pool dev, [.uprint report]⟩

end

end FwCore
