import FwCore.Proof.DeviceCalls

/-!
# Registries over whole runs

Every state a program can reach from `pool_Init` and `poolBig_Init` by creating and
destroying devices of all four kinds satisfies `DevicesOk`. From that follow what
the library promises of its pools (every block is free or in exactly one list, the
counts add up, a failed creation changes nothing) and of its uuids (no two live
devices of a kind share one, a lookup finds the device, a creation with a given
uuid fails just when it has to).
-/

namespace FwCore.Proof

open FwCore Lib

section

variable {t : Target} {s : Devices} {live : Registry → List Nat} {fuel : Nat}

/-! ## One call -/

/-- A destruction is given null or a live handle of its own kind. -/
def DeviceAllowed (live : Registry → List Nat) (op : DeviceOp) : Prop :=
  match op.action with
  | .destroy dev => dev = 0 ∨ dev ∈ live op.registry
  | _ => True

instance (live : Registry → List Nat) (op : DeviceOp) : Decidable (DeviceAllowed live op) :=
  match h : op.action with
  | .create => isTrue (by rw [DeviceAllowed, h]; trivial)
  | .createWithUuid _ => isTrue (by rw [DeviceAllowed, h]; trivial)
  | .destroy dev => decidable_of_iff (dev = 0 ∨ dev ∈ live op.registry) (by rw [DeviceAllowed, h])

/-- What a call does, by what it is about. -/
def CallSpec (t : Target) (s : Devices) (live : Registry → List Nat) (r : Registry)
    (res : DeviceResult) : DeviceAction → Prop
  | .create => Created t s live r res ∧ (res.ret = 0 ↔ Exhausted live r)
  | .createWithUuid uuid => Created t s live r res
      ∧ (res.ret = 0 ↔ uuid ∈ uuidsOf t r s.mem (live r) ∨ Exhausted live r)
  | .destroy dev => DevicesOk t res.devices none (Function.update live r ((live r).erase dev))

/-- The `destroy` functions of every kind but outputs. -/
theorem destroy_spec (h : DevicesOk t s none live) (hf : 64 < fuel) {r : Registry} {dev : Nat}
    (hd : dev = 0 ∨ dev ∈ live r) :
    ∃ res, (if dev = 0 then some ⟨0, s, []⟩ else deviceDestroy t r fuel s dev) = some res
      ∧ DevicesOk t res.devices none (Function.update live r ((live r).erase dev)) := by
  by_cases h0 : dev = 0
  · have hno : dev ∉ live r := fun hm => h.live_ne_zero hm h0
    refine ⟨⟨0, s, []⟩, if_pos h0, ?_⟩
    rw [List.erase_of_not_mem hno, Function.update_eq_self]
    exact h
  · rw [if_neg h0]
    rcases hd with hd | hd
    · exact absurd hd h0
    · exact deviceDestroy_spec h hf hd

theorem outputDestroy_spec (h : DevicesOk t s none live) (hf : 64 < fuel) {out : Nat}
    (hd : out = 0 ∨ out ∈ live .output) :
    ∃ res, outputDestroy t fuel s out = some res
      ∧ DevicesOk t res.devices none (Function.update live .output ((live .output).erase out)) := by
  by_cases h0 : out = 0
  · have hno : out ∉ live .output := fun hm => h.live_ne_zero hm h0
    refine ⟨⟨0, s, []⟩, by rw [outputDestroy, if_pos h0], ?_⟩
    rw [List.erase_of_not_mem hno, Function.update_eq_self]
    exact h
  · have hlive : out ∈ live .output := by
      rcases hd with hd | hd
      · exact absurd hd h0
      · exact hd
    obtain ⟨res, heq, hok⟩ := deviceDestroy_spec (outputOff_spec h hlive) hf hlive
    refine ⟨{ res with events := (outputOff t s out).2
        ++ [.pwmDeinit (outputPwmId t (outputOff t s out).1 out)] ++ res.events }, ?_, hok⟩
    rw [outputDestroy, if_neg h0]
    dsimp only
    rw [heq]
    rfl

theorem uuid32_lt (uuid : UInt32) : uuid.toNat < 256 ^ 4 := uuid.toNat_lt

theorem uuid8_lt (uuid : UInt8) : uuid.toNat < 256 ^ 1 := uuid.toNat_lt

/-- **Each of the twelve functions does what calls of its sort do.** -/
theorem deviceCall_spec (h : DevicesOk t s none live) (hf : 64 < fuel) {op : DeviceOp}
    (hop : DeviceAllowed live op) :
    ∃ res, deviceCall t fuel s op = some res ∧ CallSpec t s live op.registry res op.action := by
  cases op with
  | ledCreate name pinId =>
      show ∃ res, ledCreate t fuel s name pinId = some res ∧ _
      refine deviceCreate_spec h hf ?_ _ _ _
      simp [Registry.fields]
  | ledCreateWithUuid name pinId uuid =>
      show ∃ res, ledCreateWithUuid t fuel s name pinId uuid = some res ∧ _
      refine deviceCreateWithUuid_spec h hf (uuid32_lt uuid) ?_ ?_ ?_ _ _ _ _
      · simp [Registry.fields]
      · simp
      · simp
  | ledDestroy led => exact destroy_spec h hf hop
  | ledRgbCreate name pinR pinG pinB =>
      show ∃ res, ledRgbCreate t fuel s name pinR pinG pinB = some res ∧ _
      refine deviceCreate_spec h hf ?_ _ _ _
      simp [Registry.fields]
  | ledRgbCreateWithUuid name pinR pinG pinB uuid =>
      show ∃ res, ledRgbCreateWithUuid t fuel s name pinR pinG pinB uuid = some res ∧ _
      refine deviceCreateWithUuid_spec h hf (uuid8_lt uuid) ?_ ?_ ?_ _ _ _ _
      · simp [Registry.fields]
      · simp
      · simp
  | ledRgbDestroy led => exact destroy_spec h hf hop
  | outputCreate name pwmId =>
      show ∃ res, outputCreate t fuel s name pwmId = some res ∧ _
      refine deviceCreate_spec h hf ?_ _ _ _
      simp [Registry.fields]
  | outputCreateWithUuid name pwmId uuid =>
      show ∃ res, outputCreateWithUuid t fuel s name pwmId uuid = some res ∧ _
      refine deviceCreateWithUuid_spec h hf (uuid32_lt uuid) ?_ ?_ ?_ _ _ _ _
      · simp [Registry.fields]
      · simp
      · simp
  | outputDestroy out => exact outputDestroy_spec h hf hop
  | buttonCreate name pinId debounceMs holdTimeMs =>
      show ∃ res, buttonCreate t fuel s name pinId debounceMs holdTimeMs = some res ∧ _
      refine deviceCreate_spec h hf ?_ _ _ _
      simp [Registry.fields]
  | buttonCreateWithUuid name pinId debounceMs holdTimeMs uuid =>
      show ∃ res, buttonCreateWithUuid t fuel s name pinId debounceMs holdTimeMs uuid = some res ∧ _
      refine deviceCreateWithUuid_spec h hf (uuid32_lt uuid) ?_ ?_ ?_ _ _ _ _
      · simp [Registry.fields]
      · simp
      · simp
  | buttonDestroy btn => exact destroy_spec h hf hop

/-- A failed creation has changed nothing. -/
theorem Created.of_null {r : Registry} {res : DeviceResult} (h : Created t s live r res)
    (h0 : res.ret = 0) : res.devices = s := by
  cases h with
  | null events => rfl
  | device events hne hok => exact absurd h0 hne

theorem Created.ok {r : Registry} {res : DeviceResult} (hs : DevicesOk t s none live)
    (h : Created t s live r res) :
    DevicesOk t res.devices none
      (if res.ret = 0 then live else Function.update live r (res.ret :: live r)) := by
  cases h with
  | null events => exact hs
  | device events hne hok =>
      rw [if_neg hne]
      exact hok

/-- The invariant after a call, with the handles kept up to date. -/
theorem CallSpec.ok {r : Registry} {res : DeviceResult} {a : DeviceAction}
    (hs : DevicesOk t s none live) (h : CallSpec t s live r res a) :
    DevicesOk t res.devices none (liveAfter live r res.ret a) := by
  cases a with
  | create => exact h.1.ok hs
  | createWithUuid uuid => exact h.1.ok hs
  | destroy dev => exact h

/-! ## Any sequence of calls -/

/-- What a sequence of calls asks of its callers. -/
def DeviceAllowedRun (t : Target) (fuel : Nat) (w : DeviceWorld) : List DeviceOp → Prop
  | [] => True
  | op :: ops => DeviceAllowed w.live op
      ∧ ∀ w' ∈ w.call t fuel op, DeviceAllowedRun t fuel w' ops

instance decidableAllowedRun (t : Target) (fuel : Nat) : ∀ (ops : List DeviceOp) (w : DeviceWorld),
    Decidable (DeviceAllowedRun t fuel w ops)
  | [], _ => isTrue trivial
  | op :: ops, w =>
    have := decidableAllowedRun t fuel ops
    inferInstanceAs (Decidable (DeviceAllowed w.live op
      ∧ ∀ w' ∈ w.call t fuel op, DeviceAllowedRun t fuel w' ops))

theorem deviceRun_ok (hf : 64 < fuel) : ∀ (ops : List DeviceOp) {w : DeviceWorld},
    DevicesOk t w.devices none w.live → DeviceAllowedRun t fuel w ops →
    ∃ w', w.run t fuel ops = some w' ∧ DevicesOk t w'.devices none w'.live
  | [], w, h, _ => ⟨w, rfl, h⟩
  | op :: ops, w, h, hal => by
      obtain ⟨res, heq, hspec⟩ := deviceCall_spec h hf hal.1
      have hcall : w.call t fuel op
          = some ⟨res.devices, liveAfter w.live op.registry res.ret op.action⟩ := by
        rw [DeviceWorld.call, heq]
        rfl
      obtain ⟨w', hrun, h'⟩ := deviceRun_ok hf ops (hspec.ok h) (hal.2 _ hcall)
      refine ⟨w', ?_, h'⟩
      rw [DeviceWorld.run, hcall]
      exact hrun

/-- The world a program starts in. -/
def DeviceWorld.start (t : Target) (m : Mem) : DeviceWorld := ⟨Devices.init t m, fun _ => []⟩

/-- Setting up the big pool leaves the small one as it was set up. -/
theorem devices_init_ok (t : Target) (m : Mem) :
    DevicesOk t (Devices.init t m) none (fun _ => []) where
  pools := by
    intro p
    have hsmall := poolInit_holds (cfg_valid t .small) m
    have hbig := poolInit_holds (cfg_valid t .big) (poolInit t.ptrSize (t.pool .small) m).1
    cases p with
    | small =>
        refine ⟨_, hsmall.frame_off (cfg_valid t .small) ?_ (poolInitPasses_agreeOff
          (cfg_valid t .big) (poolInit t.ptrSize (t.pool .small) m).1 _ (Nat.le_refl _))⟩
        exact Or.inr (t.pools_apart.symm.imp id id)
    | big => exact ⟨_, hbig⟩
  lists := fun _ => slistHolds_init _
  uuids := fun _ => List.nodup_nil
  counts := by
    intro r
    show r.firstUuid < 256 ^ r.uuidBytes
    cases r <;> decide

/--
**Registries and pools never leak or share blocks.**

After any interleaving of creations and destructions: the free list of each pool
and the devices of its kinds make up the pool, each block once, and the lists go
through exactly the live devices; the free-block counts are 64 less the live LEDs,
RGB LEDs and outputs, and 16 less the live buttons. A creation that returns null
leaves lists, devices, pools and uuid counters exactly as they were.
-/
theorem devices_partition (t : Target) (m : Mem) (fuel : Nat) (hf : 64 < fuel)
    (ops : List DeviceOp) (hal : DeviceAllowedRun t fuel (DeviceWorld.start t m) ops) :
    ∃ w, (DeviceWorld.start t m).run t fuel ops = some w
      ∧ (∃ free, Chain (blockNext t.ptrSize w.devices.mem) 0 (w.devices.freelist .small) free
          ∧ (free ++ (w.live .led ++ w.live .ledRgb ++ w.live .output)).Perm
              (poolBlocks (cfg t .small))
          ∧ (poolBlocks (cfg t .small)).Nodup)
      ∧ (∃ free, Chain (blockNext t.ptrSize w.devices.mem) 0 (w.devices.freelist .big) free
          ∧ (free ++ w.live .button).Perm (poolBlocks (cfg t .big))
          ∧ (poolBlocks (cfg t .big)).Nodup)
      ∧ (∀ r, slistForEach t.ptrSize fuel w.devices.mem (w.devices.list r).first
          = some (nodesOf t r (w.live r)))
      ∧ (∃ n, poolGetFreeBlockCount t.ptrSize fuel w.devices.mem (w.devices.freelist .small) = some n
          ∧ n.toNat + ((w.live .led).length + (w.live .ledRgb).length + (w.live .output).length) = 64)
      ∧ (∃ n, poolBigGetFreeBlockCount t.ptrSize fuel w.devices.mem (w.devices.freelist .big) = some n
          ∧ n.toNat + (w.live .button).length = 16)
      ∧ ∀ op, (∀ dev, op.action ≠ .destroy dev) →
          ∃ res, deviceCall t fuel w.devices op = some res ∧ (res.ret = 0 → res.devices = w.devices) := by
  obtain ⟨w, hrun, h⟩ := deviceRun_ok hf ops (devices_init_ok t m) hal
  refine ⟨w, hrun, ?_, ?_, fun r => ?_, ?_, ?_, fun op hop => ?_⟩
  · obtain ⟨free, hp⟩ := h.pools .small
    exact ⟨free, hp.chain, hp.perm, blocks_nodup (poolBlock_pos (cfg_valid t .small))⟩
  · obtain ⟨free, hp⟩ := h.pools .big
    exact ⟨free, hp.chain, hp.perm, blocks_nodup (poolBlock_pos (cfg_valid t .big))⟩
  · refine slistForEach_eq _ (h.lists r).chain ?_
    rw [nodesOf, List.length_map]
    exact Nat.lt_of_le_of_lt (live_few h r).1 hf
  · obtain ⟨n, hget, hsum⟩ := freeBlockCount_spec h .small hf
    rw [liveIn, List.length_append, List.length_append] at hsum
    exact ⟨n, hget, hsum⟩
  · exact freeBlockCount_spec h .big (Nat.lt_trans (by decide) hf)
  · have hallowed : DeviceAllowed w.live op := by
      cases ha : op.action with
      | create => rw [DeviceAllowed, ha]; trivial
      | createWithUuid uuid => rw [DeviceAllowed, ha]; trivial
      | destroy dev => exact absurd ha (hop dev)
    obtain ⟨res, heq, hspec⟩ := deviceCall_spec h hf hallowed
    refine ⟨res, heq, fun h0 => ?_⟩
    cases ha : op.action with
    | create =>
        rw [ha] at hspec
        exact hspec.1.of_null h0
    | createWithUuid uuid =>
        rw [ha] at hspec
        exact hspec.1.of_null h0
    | destroy dev => exact absurd ha (hop dev)

/--
`getByUuid` answered `answer` for `uuid`: the one live device that has it, or null
if none does.
-/
def Finds (t : Target) (w : DeviceWorld) (r : Registry) (uuid : Nat) (answer : Option Nat) : Prop :=
  ∃ d, answer = some d
    ∧ (d = 0 ↔ ∀ d' ∈ w.live r, uuidOf t r w.devices.mem d' ≠ uuid)
    ∧ (d ≠ 0 → d ∈ w.live r ∧ uuidOf t r w.devices.mem d = uuid
        ∧ ∀ d' ∈ w.live r, uuidOf t r w.devices.mem d' = uuid → d' = d)

theorem finds_spec {w : DeviceWorld} (h : DevicesOk t w.devices none w.live) (hf : 64 < fuel)
    (r : Registry) (uuid : Nat) : Finds t w r uuid (getByUuid t r fuel w.devices uuid) := by
  obtain ⟨d, heq, hnull, hdev⟩ :=
    getByUuid_spec h (Nat.lt_of_le_of_lt (live_few h r).1 hf) uuid
  refine ⟨d, heq, hnull.trans ?_, hdev⟩
  rw [uuidsOf, List.mem_map, not_exists]
  constructor
  · exact fun hno d' hd' hu => hno d' ⟨hd', hu⟩
  · exact fun hno d' hd' => hno d' hd'.1 hd'.2

/--
**Every device has an identity of its own.**

After any interleaving of creations and destructions, in each of the four
registries: the live devices have pairwise different uuids; looking a uuid up
returns the one live device that has it, and null iff there is none; and a creation
with a given uuid returns null iff a live device of the kind has it or the kind's
pool is exhausted.
-/
theorem devices_identity (t : Target) (m : Mem) (fuel : Nat) (hf : 64 < fuel)
    (ops : List DeviceOp) (hal : DeviceAllowedRun t fuel (DeviceWorld.start t m) ops) :
    ∃ w, (DeviceWorld.start t m).run t fuel ops = some w
      ∧ (∀ r, (w.live r).Nodup ∧ ((w.live r).map (uuidOf t r w.devices.mem)).Nodup)
      ∧ (∀ uuid, Finds t w .led uuid.toNat (ledGetByUuid t fuel w.devices uuid))
      ∧ (∀ uuid, Finds t w .ledRgb uuid.toNat (ledRgbGetByUuid t fuel w.devices uuid))
      ∧ (∀ uuid, Finds t w .output uuid.toNat (outputGetByUuid t fuel w.devices uuid))
      ∧ (∀ uuid, Finds t w .button uuid.toNat (buttonGetByUuid t fuel w.devices uuid))
      ∧ ∀ op uuid, op.action = .createWithUuid uuid →
          ∃ res, deviceCall t fuel w.devices op = some res
            ∧ (res.ret = 0 ↔ (∃ d ∈ w.live op.registry,
                uuidOf t op.registry w.devices.mem d = uuid) ∨ Exhausted w.live op.registry) := by
  obtain ⟨w, hrun, h⟩ := deviceRun_ok hf ops (devices_init_ok t m) hal
  refine ⟨w, hrun, fun r => ⟨?_, h.uuids r⟩, fun uuid => finds_spec h hf .led _,
    fun uuid => finds_spec h hf .ledRgb _, fun uuid => finds_spec h hf .output _,
    fun uuid => finds_spec h hf .button _, fun op uuid ha => ?_⟩
  · exact List.Nodup.of_map _ (h.uuids r)
  · have hallowed : DeviceAllowed w.live op := by
      rw [DeviceAllowed, ha]
      trivial
    obtain ⟨res, heq, hspec⟩ := deviceCall_spec h hf hallowed
    rw [ha] at hspec
    refine ⟨res, heq, hspec.2.trans ?_⟩
    rw [uuidsOf, List.mem_map]

end

/--
A 32-bit target with `int`-sized enums and natural alignment, the pools side by side.
-/
def arm32 : Target where
  ptrSize := 4
  enumSize := 4
  sizeOf
    | .led | .ledRgb | .output => 20
    | .button => 96
  offset
    | _, .name => 0
    | .ledRgb, .pinR => 4
    | .ledRgb, .pinG => 5
    | .ledRgb, .pinB => 6
    | .ledRgb, .uuid => 7
    | .ledRgb, .inverted => 8
    | .ledRgb, .currentColor => 12
    | _, .pinId | _, .pwmId => 4
    | _, .uuid => 8
    | _, .inverted | _, .duty => 12
    | _, .debounceMs => 16
    | _, .holdTimeMs => 20
    | _, .state => 24
    | _, .pendingEvent => 80
    | _, .isPressed => 84
    | .button, .node => 88
    | _, .node => 16
    | _, _ => 0
  pool
    | .small => 0x20000000
    | .big => 0x20000800
  cstr := fun _ => none
  ptr_pos := by decide
  inside := fun r => by cases r <;> decide
  apart := fun r => by cases r <;> decide
  fits_block := fun r => by cases r <;> decide
  pool_pos := fun p => by cases p <;> decide
  pool_in_space := fun p => by cases p <;> decide
  pools_apart := by decide

/-- An LED, an output, a second output refused for its uuid, and the LED destroyed. -/
def fourCalls : List DeviceOp :=
  [.ledCreate 8 13, .outputCreateWithUuid 8 1 7, .outputCreateWithUuid 8 2 7,
    .ledDestroy 0x200007E0]

theorem fourCalls_allowed :
    DeviceAllowedRun arm32 65 (DeviceWorld.start arm32 (fun _ => 0xAB)) fourCalls := by
  decide +kernel

/-- One output is alive in the end, over a memory that was never cleared. -/
theorem devices_partition_four :
    ∃ w, (DeviceWorld.start arm32 (fun _ => 0xAB)).run arm32 65 fourCalls = some w
      ∧ ∃ n, poolGetFreeBlockCount 4 65 w.devices.mem (w.devices.freelist .small) = some n
        ∧ n.toNat + ((w.live .led).length + (w.live .ledRgb).length + (w.live .output).length)
          = 64 := by
  obtain ⟨w, hrun, _, _, _, hcount, _⟩ := devices_partition arm32 (fun _ => 0xAB) 65 (by decide)
    fourCalls fourCalls_allowed
  exact ⟨w, hrun, hcount⟩

theorem devices_identity_four :
    ∃ w, (DeviceWorld.start arm32 (fun _ => 0xAB)).run arm32 65 fourCalls = some w
      ∧ Finds arm32 w .output 7 (outputGetByUuid arm32 65 w.devices 7) := by
  obtain ⟨w, hrun, _, _, _, hfind, _⟩ := devices_identity arm32 (fun _ => 0xAB) 65 (by decide)
    fourCalls fourCalls_allowed
  exact ⟨w, hrun, hfind 7⟩

end FwCore.Proof
