import FwCore.Proof.DeviceSteps

/-!
# What each device call does

The twelve functions are instances of three bodies, and each body is a few of the
steps of the previous module in a row. `callOk` puts what they do in one statement:
a call that returns null and is no destruction has changed nothing at all; one
that returns a device has made it live; a destruction has ended its life.
-/

namespace FwCore.Proof

open FwCore Lib

section

variable {t : Target} {s : Devices} {live : Registry → List Nat} {r : Registry} {dev fuel : Nat}

/-! ## Assignments to a device in hand -/

theorem setField_agreeOff {f : Field} (hf : f ∈ r.fields) (m : Mem) (dev v : Nat) :
    AgreeOff m (setField t r m dev f v) dev r.pool.blockSize.toNat := by
  have hin := field_inside (t := t) hf
  have hm := store_agreeOff m (dev + t.offset r f) (t.width r f) v
  exact hm.mono (Nat.le_add_right _ _) (by omega)

theorem setFields_agreeOff : ∀ (fs : List (Field × Nat)) (m : Mem) (dev : Nat),
    (∀ fv ∈ fs, fv.1 ∈ r.fields) → AgreeOff m (setFields t r m dev fs) dev r.pool.blockSize.toNat
  | [], m, dev, _ => AgreeOff.refl m _ _
  | fv :: fs, m, dev, h => by
      have h1 := setField_agreeOff (t := t) (h fv (by simp)) m dev fv.2
      exact h1.trans (setFields_agreeOff fs _ dev (fun gv hg => h gv (by simp [hg])))

theorem getField_setField_self (m : Mem) (dev : Nat) {f : Field} {v : Nat}
    (hv : v < 256 ^ t.width r f) : getField t r (setField t r m dev f v) dev f = v :=
  load_store_self m hv

theorem getField_setField_other (m : Mem) (dev v : Nat) {f g : Field} (hf : f ∈ r.fields)
    (hg : g ∈ r.fields) (hne : g ≠ f) :
    getField t r (setField t r m dev f v) dev g = getField t r m dev g := by
  refine (store_agreeOff m (dev + t.offset r f) (t.width r f) v).load_eq ?_
  have hap : t.offset r g + t.width r g ≤ t.offset r f
      ∨ t.offset r f + t.width r f ≤ t.offset r g := t.apart r g hg f hf hne
  omega

theorem getField_setFields_other {g : Field} (hg : g ∈ r.fields) :
    ∀ (fs : List (Field × Nat)) (m : Mem) (dev : Nat), (∀ fv ∈ fs, fv.1 ∈ r.fields) →
    g ∉ fs.map Prod.fst → getField t r (setFields t r m dev fs) dev g = getField t r m dev g
  | [], _, _, _, _ => rfl
  | fv :: fs, m, dev, h, hno => by
      rw [List.map_cons, List.mem_cons, not_or] at hno
      have ih := getField_setFields_other hg fs (setField t r m dev fv.1 fv.2) dev
        (fun gv hgv => h gv (by simp [hgv])) hno.2
      exact ih.trans (getField_setField_other m dev fv.2 (h fv (by simp)) hg hno.1)

/-- A field assigned once in a row of assignments has that value afterwards. -/
theorem getField_setFields {g : Field} {v : Nat} (hg : g ∈ r.fields) (hv : v < 256 ^ t.width r g) :
    ∀ (fs : List (Field × Nat)) (m : Mem) (dev : Nat), (∀ fv ∈ fs, fv.1 ∈ r.fields) →
    (fs.map Prod.fst).Nodup → (g, v) ∈ fs → getField t r (setFields t r m dev fs) dev g = v
  | [], _, _, _, _, hm => absurd hm (by simp)
  | fv :: fs, m, dev, h, hnd, hm => by
      rw [List.map_cons, List.nodup_cons] at hnd
      have hrest : ∀ gv ∈ fs, gv.1 ∈ r.fields := fun gv hgv => h gv (by simp [hgv])
      rcases List.mem_cons.mp hm with hm | hm
      · subst hm
        have := getField_setFields_other (t := t) hg fs (setField t r m dev g v) dev hrest hnd.1
        exact this.trans (getField_setField_self m dev hv)
      · exact getField_setFields hg hv fs _ dev hrest hnd.2 hm

/-! ## The three bodies -/

/-- No kind has as many live devices as it has uuids, 256 at least. -/
theorem live_few (h : DevicesOk t s none live) (r : Registry) :
    (live r).length ≤ 64 ∧ (live r).length < 256 ^ r.uuidBytes := by
  have hpool : r.pool.blockCount.toNat ≤ 64 := by
    cases r <;> decide
  have huuid : r.pool.blockCount.toNat < 256 ^ r.uuidBytes := by
    cases r <;> decide
  have := live_le h r
  omega

/-- Whether every block of the kind's pool is in use. -/
def Exhausted (live : Registry → List Nat) (r : Registry) : Prop :=
  (liveIn live r.pool).length = r.pool.blockCount.toNat

/-- What a call may have done: null and nothing changed, or a new live device. -/
inductive Created (t : Target) (s : Devices) (live : Registry → List Nat) (r : Registry) :
    DeviceResult → Prop where
  | null (events : List DeviceEvent) : Created t s live r ⟨0, s, events⟩
  | device {dev : Nat} {s' : Devices} (events : List DeviceEvent) (hne : dev ≠ 0)
      (hok : DevicesOk t s' none (Function.update live r (dev :: live r))) :
      Created t s live r ⟨dev, s', events⟩

theorem deviceCreate_spec (h : DevicesOk t s none live) (hf : 64 < fuel)
    {fields : List (Field × Nat)} (hfields : ∀ fv ∈ fields, fv.1 ∈ r.fields)
    (early : List DeviceEvent) (report : Mem → Nat → UprintCall) (lowMemory : UprintCall) :
    ∃ res, deviceCreate t r fuel s fields early report lowMemory = some res
      ∧ Created t s live r res ∧ (res.ret = 0 ↔ Exhausted live r) := by
  obtain ⟨hfew, hfew'⟩ := live_few h r
  have hfuel : (live r).length < fuel := by omega
  rw [deviceCreate]
  rcases allocate_spec h r.pool with ⟨heq, hfull⟩ | ⟨dev, s₁, heq, hne, hroom, h₁, _⟩
  · rw [heq]
    exact ⟨_, if_pos rfl, .null _, fun _ => hfull, fun _ => rfl⟩
  · rw [heq]
    -- the block in hand is filled in, then given a uuid nobody has
    have h₂ := h₁.frame_hand (setFields_agreeOff (t := t) fields s₁.mem dev hfields)
    obtain ⟨s₃, hsearch, h₃, hmem, hfree⟩ := searchUuid_spec h₂ hfuel hfew'
    have hset := setField_agreeOff (t := t) (uuid_mem r) s₃.mem dev (s₃.uuidCount r)
    have h₄ := (h₃.frame_hand hset).count_bump r
    have hown : uuidOf t r (setField t r s₃.mem dev .uuid (s₃.uuidCount r)) dev = s₃.uuidCount r :=
      getField_setField_self _ _ (h₃.counts r)
    have hothers := uuidsOf_frame ((h₃.hand_kept hset).2 r .uuid (uuid_mem r))
    have h₅ := pushFront_spec h₄ (by
      show uuidOf t r (setField t r s₃.mem dev .uuid (s₃.uuidCount r)) dev
        ∉ uuidsOf t r (setField t r s₃.mem dev .uuid (s₃.uuidCount r)) (live r)
      rw [hown, hothers, hmem]
      exact hfree)
    obtain ⟨s₅, hs₅⟩ : ∃ s₅, s₅ = (({ s₃ with
        mem := setField t r s₃.mem dev .uuid (s₃.uuidCount r) } : Devices).bumpUuid r).pushFront
          t r dev := ⟨_, rfl⟩
    rw [← hs₅] at h₅
    refine ⟨⟨dev, s₅, early ++ [.uprint (report s₅.mem dev)]⟩, ?_, .device _ hne h₅,
      fun h0 => absurd h0 hne, fun hfull => ?_⟩
    · rw [if_neg hne]
      dsimp only
      rw [hsearch, hs₅]
      rfl
    · rw [Exhausted] at hfull
      omega

theorem deviceCreateWithUuid_spec (h : DevicesOk t s none live) (hf : 64 < fuel) {uuid : Nat}
    (hu : uuid < 256 ^ r.uuidBytes) {fields : List (Field × Nat)}
    (hfields : ∀ fv ∈ fields, fv.1 ∈ r.fields) (hnd : (fields.map Prod.fst).Nodup)
    (hm : (Field.uuid, uuid) ∈ fields) (early : List DeviceEvent)
    (report : Mem → Nat → UprintCall) (lowMemory duplicate : UprintCall) :
    ∃ res, deviceCreateWithUuid t r fuel s uuid fields early report lowMemory duplicate = some res
      ∧ Created t s live r res
      ∧ (res.ret = 0 ↔ uuid ∈ uuidsOf t r s.mem (live r) ∨ Exhausted live r) := by
  have hfuel : (live r).length < fuel := Nat.lt_of_le_of_lt (live_few h r).1 hf
  rw [deviceCreateWithUuid, uuidExists_spec h hfuel]
  by_cases htaken : uuid ∈ uuidsOf t r s.mem (live r)
  · refine ⟨⟨0, s, [.uprint duplicate]⟩, ?_, .null _, fun _ => Or.inl htaken, fun _ => rfl⟩
    rw [decide_eq_true htaken]
    rfl
  · rw [decide_eq_false htaken]
    rcases allocate_spec h r.pool with ⟨heq, hfull⟩ | ⟨dev, s₁, heq, hne, hroom, h₁, hsame⟩
    · refine ⟨⟨0, s, [.uprint lowMemory]⟩, ?_, .null _, fun _ => Or.inr hfull, fun _ => rfl⟩
      rw [heq]
      rfl
    · have hagree := setFields_agreeOff (t := t) fields s₁.mem dev hfields
      have h₂ := h₁.frame_hand hagree
      have hown : uuidOf t r (setFields t r s₁.mem dev fields) dev = uuid :=
        getField_setFields (uuid_mem r) hu fields s₁.mem dev hfields hnd hm
      have hothers := uuidsOf_frame ((h₁.hand_kept hagree).2 r .uuid (uuid_mem r))
      have h₃ := pushFront_spec h₂ (by
        show uuidOf t r (setFields t r s₁.mem dev fields) dev
          ∉ uuidsOf t r (setFields t r s₁.mem dev fields) (live r)
        rw [hown, hothers, hsame r]
        exact htaken)
      obtain ⟨s₃, hs₃⟩ : ∃ s₃, s₃ = ({ s₁ with
          mem := setFields t r s₁.mem dev fields } : Devices).pushFront t r dev := ⟨_, rfl⟩
      rw [← hs₃] at h₃
      refine ⟨⟨dev, s₃, early ++ [.uprint (report s₃.mem dev)]⟩, ?_, .device _ hne h₃,
        fun h0 => absurd h0 hne, fun hor => ?_⟩
      · rw [heq, hs₃]
        exact if_neg hne
      · rcases hor with hor | hfull
        · exact absurd hor htaken
        · rw [Exhausted] at hfull
          omega

/-- **Destruction**: the device is no longer live, and its block is free again. -/
theorem deviceDestroy_spec (h : DevicesOk t s none live) (hf : 64 < fuel) (hd : dev ∈ live r) :
    ∃ res, deviceDestroy t r fuel s dev = some res
      ∧ DevicesOk t res.devices none (Function.update live r ((live r).erase dev)) := by
  have hfuel : (live r).length < fuel := Nat.lt_of_le_of_lt (live_few h r).1 hf
  obtain ⟨s₁, heq, h₁, _⟩ := remove_spec h hd hfuel
  refine ⟨⟨0, s₁.free t r.pool dev,
    [.uprint ⟨"*** %s destroyed ***\r\n", [nameArg t r s.mem dev]⟩]⟩, ?_, free_spec h₁⟩
  rw [deviceDestroy, heq]
  rfl

/-- `output_off` changes nothing but the duty. -/
theorem outputOff_spec (h : DevicesOk t s none live) {out : Nat} (hd : out ∈ live .output) :
    DevicesOk t (outputOff t s out).1 none live := by
  rw [outputOff, outputSet, if_neg (h.live_ne_zero hd)]
  exact h.setField hd (by decide) (by decide) (by decide) _

end

end FwCore.Proof
