import FwCore.Proof.DeviceRegistries

/-!
# The search for a uuid ends

Nothing in the loop that counts a uuid up until no device has it grows or shrinks: the
counter wraps. But a kind has fewer live devices than uuids, its pool being no larger, so
one of the next few is free (`first_free`), and the loop stops at the first that is.

`searchStart` is where a creation has got to when its loop begins, and `deviceCall_search`
that nothing of what follows depends on how the loop went but for where it stopped.
-/

namespace FwCore.Proof

open FwCore Lib

section

variable {t : Target} {s : Devices} {live : Registry → List Nat} {fuel : Nat}

/-- The fields a creation assigns before it searches. -/
def creationFields : DeviceOp → List (Field × Nat)
  | .ledCreate name pinId => [(.name, name), (.pinId, pinId.toNat), (.inverted, 0)]
  | .ledRgbCreate name pinR pinG pinB =>
    [(.name, name), (.pinR, pinR.toNat), (.pinG, pinG.toNat), (.pinB, pinB.toNat), (.inverted, 0),
      (.currentColor, ledRgbColorOff)]
  | .outputCreate name pwmId => [(.name, name), (.pwmId, pwmId.toNat), (.duty, 0)]
  | .buttonCreate name pinId debounceMs holdTimeMs =>
    [(.name, name), (.pinId, pinId.toNat), (.inverted, 0), (.debounceMs, debounceMs.toNat),
      (.holdTimeMs, holdTimeMs.toNat), (.state, btnStateIdle), (.pendingEvent, buttonEventNone),
      (.isPressed, 0)]
  | _ => []

theorem creationFields_mem (op : DeviceOp) :
    ∀ fv ∈ creationFields op, fv.1 ∈ op.registry.fields := by
  cases op <;> simp [creationFields, DeviceOp.registry, Registry.fields]

/-- Where the search of a creation begins, if there is a block for the device. -/
def searchStart (t : Target) (s : Devices) (op : DeviceOp) : Option Devices :=
  let a := s.allocate t op.registry.pool
  if a.1 = 0 then none
  else some { a.2 with mem := setFields t op.registry a.2.mem a.1 (creationFields op) }

/-- The common body of the `create` functions, from its search on. -/
theorem deviceCreate_search (t : Target) (r : Registry) (s : Devices) (fields : List (Field × Nat))
    (early : List DeviceEvent) (report : Mem → Nat → UprintCall) (lowMemory : UprintCall)
    (hne : (s.allocate t r.pool).1 ≠ 0) :
    ∃ finish, ∀ fuel, deviceCreate t r fuel s fields early report lowMemory
      = (searchUuid t r fuel fuel { (s.allocate t r.pool).2 with
          mem := setFields t r (s.allocate t r.pool).2.mem (s.allocate t r.pool).1 fields }).map
        finish := by
  refine ⟨fun stop =>
    let dev := (s.allocate t r.pool).1
    let stop := { stop with mem := setField t r stop.mem dev .uuid (stop.uuidCount r) }
    let stop := (stop.bumpUuid r).pushFront t r dev
    ⟨dev, stop, early ++ [.uprint (report stop.mem dev)]⟩, fun fuel => ?_⟩
  unfold deviceCreate
  dsimp only
  rw [if_neg hne]
  cases searchUuid t r fuel fuel _ with
  | none => rfl
  | some stop => rfl

/-- The `create` functions are their common body. -/
theorem deviceCall_create (t : Target) (s : Devices) {op : DeviceOp} (hop : op.action = .create) :
    ∃ early report lowMemory, ∀ fuel, deviceCall t fuel s op
      = deviceCreate t op.registry fuel s (creationFields op) early report lowMemory := by
  cases op with
  | ledCreate => simp only [deviceCall, ledCreate]; exact ⟨_, _, _, fun _ => rfl⟩
  | ledRgbCreate => simp only [deviceCall, ledRgbCreate]; exact ⟨_, _, _, fun _ => rfl⟩
  | outputCreate => simp only [deviceCall, outputCreate]; exact ⟨_, _, _, fun _ => rfl⟩
  | buttonCreate => simp only [deviceCall, buttonCreate]; exact ⟨_, _, _, fun _ => rfl⟩
  | _ => exact absurd hop (by simp [DeviceOp.action])

/-- **A creation is its search, and something that depends on where it stops.** -/
theorem deviceCall_search (t : Target) (s : Devices) {op : DeviceOp} (hop : op.action = .create)
    {start : Devices} (hstart : searchStart t s op = some start) :
    ∃ finish, ∀ fuel, deviceCall t fuel s op
      = (searchUuid t op.registry fuel fuel start).map finish := by
  unfold searchStart at hstart
  dsimp only at hstart
  by_cases h0 : (s.allocate t op.registry.pool).1 = 0
  · rw [if_pos h0] at hstart
    exact absurd hstart (by simp)
  · rw [if_neg h0] at hstart
    obtain rfl := Option.some.inj hstart
    obtain ⟨early, report, lowMemory, hcall⟩ := deviceCall_create t s hop
    obtain ⟨finish, hsearch⟩ := deviceCreate_search t op.registry s (creationFields op) early report
      lowMemory h0
    exact ⟨finish, fun fuel => (hcall fuel).trans (hsearch fuel)⟩

/-- How a search that begins at `start` goes: `k` steps, to `stop`, a uuid of no live device. -/
structure SearchEnds (t : Target) (fuel : Nat) (w : DeviceWorld) (r : Registry)
    (start stop : Devices) (k : Nat) : Prop where
  /-- There are no more steps than live devices. -/
  steps : k ≤ (w.live r).length
  /-- After `k` steps the loop stops, and not before. -/
  stops : ∀ n, searchUuid t r fuel n start = if k < n then some stop else none
  /-- A step counts up, around the circle. -/
  count : stop.uuidCount r = (w.devices.uuidCount r + k) % 256 ^ r.uuidBytes
  free : stop.uuidCount r ∉ (w.live r).map (uuidOf t r w.devices.mem)

/-- A search from where a creation has got to. -/
theorem searchStart_ends {w : DeviceWorld} (h : DevicesOk t w.devices none w.live) (hf : 64 < fuel)
    (op : DeviceOp) :
    (searchStart t w.devices op = none ∧ Exhausted w.live op.registry)
      ∨ ∃ start stop k, searchStart t w.devices op = some start
        ∧ SearchEnds t fuel w op.registry start stop k := by
  obtain ⟨hfew, hfew'⟩ := live_few h op.registry
  have hfuel : (w.live op.registry).length < fuel := Nat.lt_of_le_of_lt hfew hf
  unfold searchStart
  dsimp only
  rcases allocate_spec h op.registry.pool with ⟨heq, hfull⟩ | ⟨dev, s₁, heq, hne, _, h₁, hsame⟩
  · rw [heq]
    exact Or.inl ⟨if_pos rfl, hfull⟩
  · have hcount : s₁.uuidCount = w.devices.uuidCount := (congrArg (·.2.uuidCount) heq).symm
    have hagree := setFields_agreeOff (t := t) (creationFields op) s₁.mem dev (creationFields_mem op)
    have h₂ := h₁.frame_hand hagree
    have huuids : uuidsOf t op.registry (setFields t op.registry s₁.mem dev (creationFields op))
        (w.live op.registry) = uuidsOf t op.registry w.devices.mem (w.live op.registry) :=
      (uuidsOf_frame ((h₁.hand_kept hagree).2 op.registry .uuid (uuid_mem op.registry))).trans
        (hsame op.registry)
    have hlen : (uuidsOf t op.registry w.devices.mem (w.live op.registry)).length
        = (w.live op.registry).length := List.length_map ..
    obtain ⟨k, hk, hfree, htaken⟩ := first_free (w.devices.uuidCount op.registry)
      (uuidsOf t op.registry w.devices.mem (w.live op.registry)) (by rw [hlen]; exact hfew')
    rw [← huuids, ← hcount] at hfree htaken
    obtain ⟨stop, hstops, _, _, hend⟩ := searchUuid_exact hfuel k h₂ htaken hfree
    rw [heq, if_neg hne]
    refine Or.inr ⟨_, stop, k, rfl, by rw [← hlen]; exact hk, hstops, ?_, ?_⟩
    · rw [hend]
      dsimp only
      rw [hcount]
    · rw [hend]
      show _ ∉ uuidsOf t op.registry w.devices.mem (w.live op.registry)
      rw [← huuids]
      exact hfree

/--
**The search for a uuid ends within as many steps as there are live devices.**

After any interleaving of creations and destructions over the four kinds, each of the
four `create` functions returns null for want of a block, or searches; then the counter
is counted up at most as often as its kind has live devices, around the end of its range
if need be, and stops on a uuid that no live device of the kind has. RGB LEDs are no
exception, though they have 256 uuids.
-/
theorem uuidSearch_ends (t : Target) (m : Mem) (fuel : Nat) (hf : 64 < fuel) (ops : List DeviceOp)
    (hal : DeviceAllowedRun t fuel (DeviceWorld.start t m) ops) :
    ∃ w, (DeviceWorld.start t m).run t fuel ops = some w
      ∧ ∀ op, op.action = .create →
        (searchStart t w.devices op = none ∧ Exhausted w.live op.registry)
        ∨ ∃ start finish stop k, searchStart t w.devices op = some start
          ∧ (∀ fuel', deviceCall t fuel' w.devices op
            = (searchUuid t op.registry fuel' fuel' start).map finish)
          ∧ SearchEnds t fuel w op.registry start stop k := by
  obtain ⟨w, hrun, h⟩ := deviceRun_ok hf ops (devices_init_ok t m) hal
  refine ⟨w, hrun, fun op hop => ?_⟩
  rcases searchStart_ends h hf op with hnone | ⟨start, stop, k, hstart, hends⟩
  · exact Or.inl hnone
  · obtain ⟨finish, hcall⟩ := deviceCall_search t w.devices hop hstart
    exact Or.inr ⟨start, finish, stop, k, hstart, hcall, hends⟩

end

/-- An RGB LED is given the last uuid there is, and then the first. -/
def lastUuid : List DeviceOp := [.ledRgbCreateWithUuid 8 1 2 3 255, .ledRgbCreateWithUuid 8 1 2 3 1]

theorem lastUuid_allowed :
    DeviceAllowedRun arm32 65 (DeviceWorld.start arm32 (fun _ => 0xAB)) lastUuid := by
  decide +kernel

theorem uuidSearch_ends_two :
    ∃ w, (DeviceWorld.start arm32 (fun _ => 0xAB)).run arm32 65 lastUuid = some w
      ∧ ((searchStart arm32 w.devices (.ledRgbCreate 8 4 5 6) = none ∧ Exhausted w.live .ledRgb)
        ∨ ∃ start stop k, searchStart arm32 w.devices (.ledRgbCreate 8 4 5 6) = some start
          ∧ SearchEnds arm32 65 w .ledRgb start stop k) := by
  obtain ⟨w, hrun, hends⟩ := uuidSearch_ends arm32 (fun _ => 0xAB) 65 (by decide) lastUuid
    lastUuid_allowed
  refine ⟨w, hrun, ?_⟩
  rcases hends (.ledRgbCreate 8 4 5 6) rfl with hnone | ⟨start, _, stop, k, hstart, _, h⟩
  · exact Or.inl hnone
  · exact Or.inr ⟨start, stop, k, hstart, h⟩

end FwCore.Proof
