import FwCore.Bsp.Inventory
import FwCore.Proof.DeviceCalls

/-!
# Structs and records

A struct in memory holds a record when its `name` leads to the record's name and every
other member but the `node` has the record's value (`Holds`). What a function does to
one device is then an edit: it assigns some members of one struct, never its `name`,
`node` or `uuid`, and the struct holds another record afterwards (`Edits`). Edits
compose, so a function that makes several assignments is taken apart into them, and an
edit of one live device disturbs neither `DevicesOk` nor any other device's record.
-/

namespace FwCore.Proof

open FwCore Lib

/-! ## Records as values -/

/-- The members a record gives values to. -/
def data (r : Registry) : List Member :=
  r.members.filter (fun i => i ≠ .field .name ∧ i ≠ .field .node)

/-- Those that may be assigned when the device is live. -/
def editable (r : Registry) : List Member := (data r).filter (fun i => i ≠ .field .uuid)

/-- What a member of a struct is, as a number. -/
def recordValue : (r : Registry) → r.Record → Member → Nat
  | .led, led, .field .pinId => led.pinId.toNat
  | .led, led, .field .uuid => led.uuid.toNat
  | .led, led, .field .inverted => led.inverted.toNat
  | .ledRgb, led, .field .pinR => led.led.pinR.toNat
  | .ledRgb, led, .field .pinG => led.led.pinG.toNat
  | .ledRgb, led, .field .pinB => led.led.pinB.toNat
  | .ledRgb, led, .field .uuid => led.uuid.toNat
  | .ledRgb, led, .field .inverted => led.led.inverted.toNat
  | .ledRgb, led, .field .currentColor => led.led.currentColor.code
  | .output, out, .field .pwmId => out.pwmId.toNat
  | .output, out, .field .uuid => out.uuid.toNat
  | .output, out, .field .duty => out.duty.toNat
  | .button, btn, .field .pinId => btn.pinId.toNat
  | .button, btn, .field .uuid => btn.uuid.toNat
  | .button, btn, .field .inverted => btn.inverted.toNat
  | .button, btn, .field .debounceMs => btn.debounceMs.toNat
  | .button, btn, .field .holdTimeMs => btn.holdTimeMs.toNat
  | .button, btn, .field .state => btn.state.code
  | .button, btn, .field .pendingEvent => btn.pendingEvent.code
  | .button, btn, .field .isPressed => btn.isPressed.toNat
  | .button, btn, .timer .debounce f => btn.debounceTimer.value f
  | .button, btn, .timer .hold f => btn.holdTimer.value f
  | _, _, _ => 0

theorem data_mem {r : Registry} {i : Member} (hi : i ∈ data r) : i ∈ r.members :=
  (List.mem_filter.mp hi).1

theorem editable_data {r : Registry} {i : Member} (hi : i ∈ editable r) : i ∈ data r :=
  (List.mem_filter.mp hi).1

theorem data_node {r : Registry} {i : Member} (hi : i ∈ data r) : i ≠ .field .node := by
  have h := (List.mem_filter.mp hi).2
  simp only [ne_eq, decide_eq_true_eq] at h
  exact h.2

theorem editable_ne {r : Registry} {i : Member} (hi : i ∈ editable r) :
    i ≠ .field .name ∧ i ≠ .field .node ∧ i ≠ .field .uuid := by
  have h := (List.mem_filter.mp (editable_data hi)).2
  have h' := (List.mem_filter.mp hi).2
  simp only [ne_eq, decide_eq_true_eq] at h h'
  exact ⟨h.1, h.2, h'⟩

theorem uuid_data (r : Registry) : Member.field .uuid ∈ data r := by
  cases r <;> decide

theorem field_members {r : Registry} {f : Field} (hf : f ∈ r.fields) :
    Member.field f ∈ r.members := mem_members.mpr (Or.inl ⟨f, hf, rfl⟩)

section

variable {t : Target} (d : ButtonTimers t)

include d in
/-- An enumerator fits an `enum`. -/
theorem code_lt {n : Nat} (hn : n < 256) : n < 256 ^ t.enumSize := by
  have hpow : 256 ^ 1 ≤ 256 ^ t.enumSize := Nat.pow_le_pow_right (by decide) d.enum_pos
  omega

theorem bool_lt (b : Bool) : b.toNat < 256 ^ 1 := Nat.lt_of_le_of_lt (Bool.toNat_le b) (by decide)

theorem color_code_lt (c : LedRgbColor) : c.code < 256 := by
  cases c <;> decide

theorem state_code_lt (state : BtnState) : state.code < 256 := by
  cases state <;> decide

theorem event_code_lt (ev : ButtonEvent) : ev.code < 256 := by
  cases ev <;> decide

/-- Every value of a record fits its member. -/
theorem recordValue_lt (r : Registry) (rec : r.Record) {i : Member} (hi : i ∈ data r) :
    recordValue r rec i < 256 ^ (deviceLayout d r).width i := by
  rcases mem_members.mp (data_mem hi) with ⟨f, hf, rfl⟩ | ⟨rfl, k, f, rfl⟩
  · show _ < 256 ^ t.width r f
    cases r with
    | led =>
        cases f <;> first
          | exact absurd hi (by decide)
          | exact UInt8.toNat_lt _
          | exact UInt32.toNat_lt _
          | exact bool_lt _
    | ledRgb =>
        cases f <;> first
          | exact absurd hi (by decide)
          | exact UInt8.toNat_lt _
          | exact bool_lt _
          | exact code_lt d (color_code_lt _)
    | output =>
        cases f <;> first
          | exact absurd hi (by decide)
          | exact UInt8.toNat_lt _
          | exact UInt32.toNat_lt _
    | button =>
        cases f <;> first
          | exact absurd hi (by decide)
          | exact UInt8.toNat_lt _
          | exact UInt32.toNat_lt _
          | exact bool_lt _
          | exact code_lt d (state_code_lt _)
          | exact code_lt d (event_code_lt _)
  · show _ < 256 ^ f.width
    cases k with
    | debounce => exact SimpleTimer.value_lt _ f
    | hold => exact SimpleTimer.value_lt _ f

/-! ## Holding a record -/

/-- The struct at `dev` holds a record. -/
structure Holds (r : Registry) (m : Mem) (dev : Nat) (rec : r.Record) : Prop where
  name : t.cstr (getField t r m dev .name) = recordName r rec
  data : ∀ i ∈ data r, (deviceLayout d r).get m dev i = recordValue r rec i

variable {d} {r : Registry} {m m' m'' : Mem} {dev : Nat} {rec rec' rec'' : r.Record}

theorem Holds.field (h : Holds d r m dev rec) {f : Field} (hf : Member.field f ∈ Proof.data r) :
    getField t r m dev f = recordValue r rec (.field f) := h.data _ hf

theorem Holds.nameArg (h : Holds d r m dev rec) :
    nameArg t r m dev = .str (recordName r rec) := congrArg UprintArg.str h.name

theorem recordValue_uuid (rec : r.Record) :
    recordValue r rec (.field .uuid) = recordUuid r rec := by
  cases r <;> rfl

theorem Holds.uuid (h : Holds d r m dev rec) : uuidOf t r m dev = recordUuid r rec :=
  (h.field (uuid_data r)).trans (recordValue_uuid rec)

theorem Holds.uuidArg (h : Holds d r m dev rec) :
    uuidArg t r m dev = .unsigned (UInt32.ofNat (recordUuid r rec)) :=
  congrArg (fun u => UprintArg.unsigned (UInt32.ofNat u)) h.uuid

/-- A record stays where the bytes of its members stay; the node is not looked at. -/
theorem Holds.congr (h : Holds d r m dev rec)
    (hm : ∀ i ∈ r.members, i ≠ .field .node → ∀ x, (deviceLayout d r).At dev i x → m' x = m x) :
    Holds d r m' dev rec where
  name := by
    have hget : getField t r m' dev .name = getField t r m dev .name :=
      Layout.get_congr (hm (.field .name) (field_members (name_mem r)) (by decide))
    rw [hget]
    exact h.name
  data := by
    intro i hi
    rw [Layout.get_congr (hm i (data_mem hi) (data_node hi))]
    exact h.data i hi

/-! ## Edits -/

variable (d) in
/-- From `m` to `m'` one struct has been edited, and holds `rec'` if it held `rec`. -/
structure Edits (r : Registry) (dev : Nat) (m m' : Mem) (rec rec' : r.Record) : Prop where
  only : (deviceLayout d r).Only dev (editable r) m m'
  holds : Holds d r m dev rec → Holds d r m' dev rec'

theorem Edits.refl (r : Registry) (dev : Nat) (m : Mem) (rec : r.Record) :
    Edits d r dev m m rec rec := ⟨Layout.Only.refl _ _ _, fun h => h⟩

theorem Edits.trans (h : Edits d r dev m m' rec rec') (h' : Edits d r dev m' m'' rec' rec'') :
    Edits d r dev m m'' rec rec'' := ⟨h.only.trans h'.only, fun hr => h'.holds (h.holds hr)⟩

/-- One assignment. -/
theorem edits_set {i : Member} {v : Nat} (hi : i ∈ editable r)
    (hv : v = recordValue r rec' i) (hname : recordName r rec' = recordName r rec)
    (hrest : ∀ j ∈ data r, j ≠ i → recordValue r rec' j = recordValue r rec j) :
    Edits d r dev m ((deviceLayout d r).set m dev i v) rec rec' := by
  have him := data_mem (editable_data hi)
  refine ⟨(Layout.set_only m dev i v).mono (by simpa using hi), fun h => ⟨?_, fun j hj => ?_⟩⟩
  · have hget : getField t r ((deviceLayout d r).set m dev i v) dev .name
        = getField t r m dev .name :=
      Layout.get_set_of_ne him (field_members (name_mem r)) (editable_ne hi).1.symm
    rw [hget, h.name, hname]
  · by_cases hji : j = i
    · subst hji
      rw [hv]
      exact Layout.get_set_self (recordValue_lt d r rec' hj)
    · rw [Layout.get_set_of_ne him (data_mem hj) hji, h.data j hj, hrest j hj hji]

/-! ## Other devices -/

variable {s : Devices} {live : Registry → List Nat}

/-- Two live devices have no byte of their blocks in common. -/
theorem DevicesOk.block_off {hand : Option (PoolId × Nat)} (h : DevicesOk t s hand live)
    {r r' : Registry} {b b' x : Nat} (hb : b ∈ live r) (hb' : b' ∈ live r') (hne : r = r' → b ≠ b')
    (hlo : b ≤ x) (hhi : x < b + r.pool.blockSize.toNat) :
    x < b' ∨ b' + r'.pool.blockSize.toNat ≤ x := by
  refine blocks_off t (h.live_block hb) (h.live_block hb') (fun hp hbb => ?_) hlo hhi
  subst hbb
  by_cases hr : r = r'
  · exact hne hr rfl
  · exact live_disjoint (h.liveIn_nodup r.pool) rfl hp.symm hr hb hb'

theorem at_block {r : Registry} {i : Member} {x : Nat} (hi : i ∈ r.members)
    (hx : (deviceLayout d r).At dev i x) : dev ≤ x ∧ x < dev + r.pool.blockSize.toNat := by
  have hin := Layout.at_inside (L := deviceLayout d r) hi hx
  have hfits := deviceLayout_fits d r
  omega

/-- What has not been assigned, in this device or any other, is as it was. -/
theorem DevicesOk.only_kept {hand : Option (PoolId × Nat)} (h : DevicesOk t s hand live)
    (hd : dev ∈ live r) {is : List Member} (his : is ⊆ r.members)
    (ho : (deviceLayout d r).Only dev is s.mem m') {r' : Registry} {b : Nat} {j : Member}
    (hb : b ∈ live r') (hj : j ∈ r'.members) (hno : r' = r → b = dev → j ∉ is) {x : Nat}
    (hx : (deviceLayout d r').At b j x) : m' x = s.mem x := by
  refine ho x (fun i hi hx' => ?_)
  by_cases hsame : r' = r ∧ b = dev
  · -- a member of this device
    obtain ⟨rfl, rfl⟩ := hsame
    have hij := Layout.at_unique (L := deviceLayout d r') (his hi) hj hx' hx
    exact hno rfl rfl (hij ▸ hi)
  · -- of another
    have hin := at_block hj hx
    have hin' := at_block (his hi) hx'
    have := h.block_off hb hd (fun hr hbd => hsame ⟨hr, hbd⟩) hin.1 hin.2
    omega

theorem editable_members (r : Registry) : editable r ⊆ r.members :=
  fun _ hi => data_mem (editable_data hi)

/-- **An edit of a live device keeps pools, lists and uuids consistent.** -/
theorem DevicesOk.edit (h : DevicesOk t s none live) (hd : dev ∈ live r)
    (ho : (deviceLayout d r).Only dev (editable r) s.mem m') :
    DevicesOk t { s with mem := m' } none live := by
  refine h.frame ?_ (fun r' b hb x hlo hhi => ?_) (fun r' b hb x hlo hhi => ?_)
  · -- a free block is no live device's
    intro p b hb hno x hlo hhi
    refine ho x (fun i hi hx => ?_)
    have hin := at_block (editable_members r hi) hx
    have := blocks_off t hb (h.live_block hd) (fun hp hbd => hno (by
      subst hp
      exact List.mem_append_right _ (hbd ▸ mem_liveIn hd))) hlo hhi
    omega
  · exact h.only_kept hd (editable_members r) ho hb (field_members (node_mem r'))
      (fun _ _ hi => (editable_ne hi).2.1 rfl) ⟨hlo, hhi⟩
  · exact h.only_kept hd (editable_members r) ho hb (field_members (uuid_mem r'))
      (fun _ _ hi => (editable_ne hi).2.2 rfl) ⟨hlo, hhi⟩

/-- And the records of the other devices. -/
theorem DevicesOk.edit_others (h : DevicesOk t s none live) (hd : dev ∈ live r)
    (ho : (deviceLayout d r).Only dev (editable r) s.mem m') {r' : Registry} {b : Nat}
    {rec : r'.Record} (hb : b ∈ live r') (hne : r' = r → b ≠ dev)
    (hr : Holds d r' s.mem b rec) : Holds d r' m' b rec :=
  hr.congr (fun _ hj _ _ hx => h.only_kept hd (editable_members r) ho hb hj
    (fun hrr hbd => absurd hbd (hne hrr)) hx)

end

end FwCore.Proof
