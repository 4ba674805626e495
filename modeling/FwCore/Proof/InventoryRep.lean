import Mathlib.Data.List.Find
import Mathlib.Data.Fintype.EquivFin
import FwCore.Proof.ButtonStruct
import FwCore.Proof.DeviceLifetimes

/-!
# A world that represents an inventory

The devices in memory represent an inventory when they are consistent, the handles are
the same, and the struct behind each handle holds the record. What the questions of the
library compute is then what the inventory answers, and a new device, an edit of one and
the end of one go the same way on both sides.
-/

namespace FwCore.Proof

open FwCore Lib

section

variable {t : Target}

/-- Pools, lists, structs and counters represent an inventory. -/
structure Represents (d : ButtonTimers t) (w : BspWorld) (inv : Inventory) : Prop where
  ok : DevicesOk t w.devices none w.live
  live : inv.live = w.live
  records : ∀ r dev rec, inv.device r dev = some rec → Holds d r w.devices.mem dev rec
  counts : inv.uuidCount = w.devices.uuidCount
  pins : inv.pins = w.pins

variable {d : ButtonTimers t} {w : BspWorld} {inv : Inventory} {r : Registry} {dev fuel : Nat}

theorem represents_start (d : ButtonTimers t) (m : Mem) (pins : Pins) :
    Represents d (BspWorld.start t m pins) (Inventory.empty pins) where
  ok := devices_init_ok t m
  live := rfl
  records := fun _ _ _ h => nomatch h
  counts := rfl
  pins := rfl

/-! ## Handles -/

/-- A handle in use is a record, and the struct holds it. -/
theorem Represents.device (h : Represents d w inv) (hd : dev ∈ w.live r) :
    ∃ rec, inv.device r dev = some rec ∧ Holds d r w.devices.mem dev rec := by
  rw [← h.live, inv.listed r dev] at hd
  obtain ⟨rec, hrec⟩ := Option.isSome_iff_exists.mp hd
  exact ⟨rec, hrec, h.records r dev rec hrec⟩

theorem Represents.no_device (h : Represents d w inv) (hd : dev ∉ w.live r) :
    inv.device r dev = none := by
  rw [← h.live, inv.listed r dev] at hd
  exact Option.not_isSome_iff_eq_none.mp hd

/-- A call is given null, which is no device, or a device. -/
theorem Represents.given (h : Represents d w inv) (hd : dev = 0 ∨ dev ∈ w.live r) :
    (dev = 0 ∧ inv.device r dev = none)
      ∨ (dev ≠ 0 ∧ dev ∈ w.live r ∧ ∃ rec, inv.device r dev = some rec
        ∧ Holds d r w.devices.mem dev rec) := by
  by_cases h0 : dev = 0
  · subst h0
    exact Or.inl ⟨rfl, h.no_device (fun hm => h.ok.live_ne_zero hm rfl)⟩
  · have hlive := hd.resolve_left h0
    exact Or.inr ⟨h0, hlive, h.device hlive⟩

/-- There is always a handle that is not in use. -/
theorem exists_fresh (live : Registry → List Nat) : ∃ fresh, fresh ≠ 0 ∧ ∀ r, fresh ∉ live r := by
  obtain ⟨x, hx⟩ := Infinite.exists_notMem_finset
    (0 :: (live .led ++ live .ledRgb ++ live .output ++ live .button)).toFinset
  simp only [List.mem_toFinset, List.mem_cons, List.mem_append, not_or] at hx
  refine ⟨x, hx.1, fun r => ?_⟩
  cases r with
  | led => exact hx.2.1.1.1
  | ledRgb => exact hx.2.1.1.2
  | output => exact hx.2.1.2
  | button => exact hx.2.2

/-! ## Questions -/

/-- Something of every device is the same thing of every handle. -/
theorem Represents.each {α : Type} (h : Represents d w inv) (r : Registry) {f : r.Record → α}
    {g : Nat → α} (hfg : ∀ dev rec, Holds d r w.devices.mem dev rec → f rec = g dev) :
    inv.each r f = (w.live r).map g := by
  rw [Inventory.each, h.live, ← List.filterMap_eq_map]
  refine List.filterMap_congr (fun dev hd => ?_)
  obtain ⟨rec, hrec, hholds⟩ := h.device hd
  rw [hrec, Option.map_some, hfg dev rec hholds]
  rfl

theorem Represents.uuids (h : Represents d w inv) (r : Registry) :
    inv.uuids r = uuidsOf t r w.devices.mem (w.live r) :=
  h.each r (fun _ _ hholds => hholds.uuid.symm)

theorem Represents.full (h : Represents d w inv) (r : Registry) :
    inv.full r ↔ Exhausted w.live r := by
  have hused : ∀ p, inv.used p = (liveIn w.live p).length := by
    intro p
    rw [← h.live]
    cases p with
    | small => simp [Inventory.used, liveIn, Nat.add_assoc]
    | big => rfl
  rw [Inventory.full, Exhausted, hused]

/-- **A lookup answers what the inventory answers.** -/
theorem Represents.byUuid (h : Represents d w inv) (hf : 64 < fuel) (r : Registry) (uuid : Nat) :
    getByUuid t r fuel w.devices uuid = some (inv.byUuid r uuid) := by
  have hfuel : (w.live r).length < fuel := Nat.lt_of_le_of_lt (live_few h.ok r).1 hf
  have hsame : (inv.live r).find? (fun dev =>
        (inv.device r dev).map (recordUuid r) == some uuid)
      = (w.live r).find? (fun dev => uuidOf t r w.devices.mem dev == uuid) := by
    rw [h.live]
    refine List.find?_congr (fun dev hd => ?_)
    obtain ⟨rec, hrec, hholds⟩ := h.device hd
    rw [hrec, hholds.uuid]
    rfl
  rw [getByUuid, uuidNode_spec h.ok hfuel, Inventory.byUuid, hsame]
  cases hfind : (w.live r).find? (fun dev => uuidOf t r w.devices.mem dev == uuid) with
  | none => rfl
  | some dev =>
      have hne := h.ok.live_ne_zero (List.mem_of_find?_eq_some hfind)
      show some (if dev + t.offset r .node = 0 then 0
        else containerOf t r (dev + t.offset r .node)) = some dev
      rw [if_neg (by omega), containerOf, Nat.add_sub_cancel]

/-- The loop of the `displayAll` functions sees the live devices. -/
theorem forEach_live (h : DevicesOk t w.devices none w.live) (hf : 64 < fuel) (r : Registry) :
    slistForEach t.ptrSize fuel w.devices.mem (w.devices.list r).first
      = some (nodesOf t r (w.live r)) := by
  refine slistForEach_eq _ (h.lists r).chain ?_
  rw [nodesOf, List.length_map]
  exact Nat.lt_of_le_of_lt (live_few h r).1 hf

theorem map_containerOf {α : Type} (r : Registry) (l : List Nat) (g : Nat → α) :
    (nodesOf t r l).map (fun it => g (containerOf t r it)) = l.map g := by
  rw [nodesOf, List.map_map]
  refine List.map_congr_left (fun dev _ => ?_)
  rw [Function.comp_apply, containerOf, Nat.add_sub_cancel]

/-- A line for every device. -/
theorem Represents.lines (h : Represents d w inv) (r : Registry) {f : r.Record → UprintCall}
    {g : Nat → UprintCall} (hfg : ∀ dev rec, Holds d r w.devices.mem dev rec → f rec = g dev) :
    inv.each r f
      = (nodesOf t r (w.live r)).map (fun it => g (containerOf t r it)) := by
  rw [map_containerOf, h.each r hfg]

/-- The search for a uuid ends where the inventory counts to. -/
theorem Represents.nextUuid (h : Represents d w inv) {k : Nat} (hk : k ≤ (w.live r).length)
    (hfree : (w.devices.uuidCount r + k) % 256 ^ r.uuidBytes
      ∉ uuidsOf t r w.devices.mem (w.live r))
    (htaken : ∀ j < k, (w.devices.uuidCount r + j) % 256 ^ r.uuidBytes
      ∈ uuidsOf t r w.devices.mem (w.live r)) :
    inv.nextUuid r = (w.devices.uuidCount r + k) % 256 ^ r.uuidBytes := by
  rw [Inventory.nextUuid, h.uuids r, h.counts, h.live, find_first hk hfree htaken]
  rfl

/-! ## Devices come, change and go -/

theorem Represents.setPins (h : Represents d w inv) (pins : Pins) :
    Represents d { w with pins := pins } (inv.setPins pins) :=
  ⟨h.ok, h.live, h.records, h.counts, rfl⟩

/-- A device is edited, in memory and in the inventory. -/
theorem Represents.edit (h : Represents d w inv) {rec : r.Record} {f : r.Record → r.Record}
    (hrec : inv.device r dev = some rec) {m' : Mem}
    (hedit : Edits d r dev w.devices.mem m' rec (f rec)) :
    Represents d { w with devices := { w.devices with mem := m' } } (inv.edit r dev f) := by
  have hd : dev ∈ w.live r := h.live ▸ inv.mem_live hrec
  refine ⟨h.ok.edit hd hedit.only, h.live, fun r' dev' rec' hrec' => ?_, h.counts, h.pins⟩
  by_cases hsame : r' = r ∧ dev' = dev
  · -- the device itself
    obtain ⟨rfl, rfl⟩ := hsame
    rw [Inventory.edit_device_self, hrec] at hrec'
    obtain rfl := Option.some.inj hrec'
    exact hedit.holds (h.records r' dev' rec hrec)
  · have hne : r' = r → dev' ≠ dev := fun hr hdev => hsame ⟨hr, hdev⟩
    rw [Inventory.edit_device_other hne] at hrec'
    have hd' : dev' ∈ w.live r' := h.live ▸ inv.mem_live hrec'
    exact h.ok.edit_others hd hedit.only hd' hne (h.records r' dev' rec' hrec')

/-- A new device, in its block and in the inventory. -/
theorem Represents.add (h : Represents d w inv) {vs : List (Field × Nat)} {s' : Devices}
    (hnew : NewDevice t w.devices w.live r vs dev s') (hvs : ∀ fv ∈ vs, fv.1 ∈ r.fields)
    {rec : r.Record} (hrec : Holds d r s'.mem dev rec) {inv₁ : Inventory}
    (hlive : inv₁.live = inv.live) (hdevice : inv₁.device = inv.device)
    (hcount : inv₁.uuidCount = s'.uuidCount) (hpins : inv₁.pins = inv.pins) :
    Represents d ⟨s', w.pins, Function.update w.live r (dev :: w.live r)⟩
      (inv₁.add r dev rec) := by
  refine ⟨hnew.ok, ?_, fun r' dev' rec' hrec' => ?_, hcount, hpins.trans h.pins⟩
  · show Function.update inv₁.live r (dev :: inv₁.live r) = _
    rw [hlive, h.live]
  · by_cases hsame : r' = r ∧ dev' = dev
    · obtain ⟨rfl, rfl⟩ := hsame
      rw [Inventory.add_device_self] at hrec'
      obtain rfl := Option.some.inj hrec'
      exact hrec
    · rw [Inventory.add_device_other (fun hr hdev => hsame ⟨hr, hdev⟩), hdevice] at hrec'
      have hd' : dev' ∈ w.live r' := h.live ▸ inv.mem_live hrec'
      exact hnew.others hvs hd' (h.records r' dev' rec' hrec')

/-- A device goes, and its block is free. -/
theorem Represents.remove (h : Represents d w inv) (hf : 64 < fuel) (hd : dev ∈ w.live r) :
    ∃ s', deviceDestroy t r fuel w.devices dev
        = some ⟨0, s', [.uprint ⟨"*** %s destroyed ***\r\n", [nameArg t r w.devices.mem dev]⟩]⟩
      ∧ Represents d ⟨s', w.pins, Function.update w.live r ((w.live r).erase dev)⟩
        (inv.remove r dev) := by
  obtain ⟨s', heq, hok, hcount, hmem⟩ := deviceDestroy_exact h.ok hf hd
  refine ⟨s', heq, hok, ?_, fun r' dev' rec' hrec' => ?_, h.counts.trans hcount.symm, h.pins⟩
  · have hnd : (w.live r).Nodup := List.Nodup.of_map _ (h.ok.uuids r)
    show Function.update inv.live r ((inv.live r).filter (· ≠ dev)) = _
    rw [h.live, hnd.erase_eq_filter]
    congr 1
    refine List.filter_congr (fun x _ => ?_)
    rw [bne, Bool.eq_iff_iff]
    simp
  · by_cases hsame : r' = r ∧ dev' = dev
    · obtain ⟨rfl, rfl⟩ := hsame
      rw [Inventory.remove_device_self] at hrec'
      exact nomatch hrec'
    · have hne : r' = r → dev' ≠ dev := fun hr hdev => hsame ⟨hr, hdev⟩
      rw [Inventory.remove_device_other hne] at hrec'
      have hd' : dev' ∈ w.live r' := h.live ▸ inv.mem_live hrec'
      exact destroy_others h.ok hd hmem hd' hne (h.records r' dev' rec' hrec')

end

end FwCore.Proof
