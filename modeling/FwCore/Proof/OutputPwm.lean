import FwCore.Proof.DeviceHistory

/-!
# What the outputs ask of the PWM hardware

An instance of the PWM hardware is to be initialised before it is driven, driven with at
most 100 percent, and driven to nothing before it is switched off. Whether a whole
program keeps to that is seen from its events alone (`pwmRun`). Outputs do, each on its
instance; what can go wrong is that a new output is put on the instance of a live one,
which the library does not check. So the events are in order exactly if that does not
happen, and then every instance runs at the duty its output records.
-/

namespace FwCore.Proof

open FwCore Lib

/-- What an instance is doing; the last duty it was asked for, if any. -/
inductive Pwm where
  | off
  | on (asked : Option UInt8)
deriving DecidableEq, Repr

/-- The duty of an instance; it starts from nothing. -/
def Pwm.duty : Pwm → UInt8
  | .off => 0
  | .on asked => asked.getD 0

/-- What becomes of the instance `id`, if it may be asked for that. -/
def pwmStep (id : UInt8) (s : Pwm) : DeviceEvent → Option Pwm
  | .uprint _ => some s
  | .pwmInit i => if i ≠ id then some s else if s = .off then some (.on none) else none
  | .pwmSetDuty i duty =>
    if i ≠ id then some s else if s ≠ .off ∧ duty ≤ 100 then some (.on (some duty)) else none
  | .pwmDeinit i => if i ≠ id then some s else if s = .on (some 0) then some .off else none

/-- The instance `id` in the course of the events. -/
def pwmRun (id : UInt8) (s : Pwm) (events : List DeviceEvent) : Option Pwm :=
  events.foldlM (pwmStep id) s

/-- The instance a call is to put a new output on. -/
def BspOp.newPwm : BspOp → Option UInt8
  | .device (.outputCreate _ pwmId) => some pwmId
  | .device (.outputCreateWithUuid _ pwmId _) => some pwmId
  | _ => none

section

variable {t : Target} {d : ButtonTimers t} {inv inv' : Inventory} {fresh fuel : Nat} {op : BspOp}
  {answer : BspAnswer} {r : Registry} {dev : Nat}

/-- The call puts a new output on the instance of a live one. -/
def SharesPwm (d : ButtonTimers t) (fuel : Nat) (w : BspWorld) (op : BspOp) : Prop :=
  ∃ id ∈ BspOp.newPwm op, (∃ out ∈ w.live .output, outputPwmId t w.devices out = id)
    ∧ ∃ res ∈ bspCall d fuel w op, res.2.ret ≠ .handle 0

/-! ## What a call asks for -/

/-- What a call does to the outputs, and what it asks of the hardware. -/
inductive OutputEffect (inv : Inventory) (op : BspOp) : Inventory × BspAnswer → Prop where
  /-- Nothing. -/
  | silent {inv' : Inventory} {answer : BspAnswer}
      (failed : ∀ id ∈ BspOp.newPwm op, answer.ret = .handle 0)
      (device : inv'.device .output = inv.device .output)
      (events : ∃ calls : List UprintCall, answer.events = calls.map .uprint) :
      OutputEffect inv op (inv', answer)
  /-- There is a new output. -/
  | created {inv' : Inventory} {answer : BspAnswer} (out : Nat) (rec : Output) (call : UprintCall)
      (asked : BspOp.newPwm op = some rec.pwmId) (ret : answer.ret = .handle out)
      (handle : out ≠ 0) (new : inv.device .output out = none) (duty : rec.duty = 0)
      (device : inv'.device .output = Function.update (inv.device .output) out (some rec))
      (events : answer.events = [.pwmInit rec.pwmId, .uprint call]) :
      OutputEffect inv op (inv', answer)
  /-- An output is driven. -/
  | driven {inv' : Inventory} {answer : BspAnswer} (out : Nat) (rec : Output) (duty : UInt8)
      (new : BspOp.newPwm op = none) (there : inv.device .output out = some rec)
      (device : inv'.device .output
        = Function.update (inv.device .output) out (some (rec.set duty)))
      (events : answer.events = [.pwmSetDuty rec.pwmId (rec.set duty).duty]) :
      OutputEffect inv op (inv', answer)
  /-- An output is no more. -/
  | destroyed {inv' : Inventory} {answer : BspAnswer} (out : Nat) (rec : Output) (call : UprintCall)
      (new : BspOp.newPwm op = none) (there : inv.device .output out = some rec)
      (device : inv'.device .output = Function.update (inv.device .output) out none)
      (events : answer.events = [.pwmSetDuty rec.pwmId 0, .pwmDeinit rec.pwmId, .uprint call]) :
      OutputEffect inv op (inv', answer)

/-- A call that asks for no output is given none. -/
theorem no_newPwm {ret : BspRet} (h : BspOp.newPwm op = none) :
    ∀ id ∈ BspOp.newPwm op, ret = .handle 0 := by
  intro id hid
  rw [h] at hid
  cases hid

theorem output_say (h : BspOp.newPwm op = none) (ret : BspRet) (calls : List UprintCall) :
    OutputEffect inv op (inv.say ret calls) :=
  .silent (no_newPwm h) rfl ⟨calls, rfl⟩

theorem output_on (h : BspOp.newPwm op = none) (null : BspRet)
    {f : r.Record → Inventory × BspAnswer}
    (hf : ∀ rec, inv.device r dev = some rec → OutputEffect inv op (f rec)) :
    OutputEffect inv op (inv.on r dev null f) := by
  rw [Inventory.on]
  cases hrec : inv.device r dev with
  | none => exact output_say h null []
  | some rec => exact hf rec hrec

/-- A call that changes another device, or the pins. -/
theorem output_quiet (h : BspOp.newPwm op = none) (hdev : inv'.device .output = inv.device .output)
    (ret : BspRet) : OutputEffect inv op (inv', ⟨ret, []⟩) :=
  .silent (no_newPwm h) hdev ⟨[], rfl⟩

theorem output_set (h : BspOp.newPwm op = none) (out : Nat) (duty : UInt8) :
    OutputEffect inv op (inv.setOutput out duty) := by
  refine output_on h .void fun rec hrec => ?_
  refine .driven out rec duty h hrec ?_ rfl
  rw [Inventory.edit_device_kind, hrec, Option.map_some]

/-- Creating another device. -/
theorem output_create_other (h : BspOp.newPwm op = none) (hr : r ≠ .output)
    {mk : Nat → r.Record} {report : r.Record → UprintCall} {lowMemory : UprintCall} :
    OutputEffect inv op (inv.create fresh r mk (fun _ => []) report lowMemory) := by
  rw [Inventory.create]
  split
  · exact output_say h _ _
  · exact .silent (no_newPwm h) (Inventory.add_device_of_ne hr.symm _) ⟨[_], rfl⟩

theorem output_createWithUuid_other (h : BspOp.newPwm op = none) (hr : r ≠ .output)
    {rec : r.Record} {report : r.Record → UprintCall} {lowMemory duplicate : UprintCall} :
    OutputEffect inv op
      (inv.createWithUuid fresh r rec (fun _ => []) report lowMemory duplicate) := by
  rw [Inventory.createWithUuid]
  split
  · exact output_say h _ _
  · split
    · exact output_say h _ _
    · exact .silent (no_newPwm h) (Inventory.add_device_of_ne hr.symm _) ⟨[_], rfl⟩

theorem output_destroy_other (h : BspOp.newPwm op = none) (hr : r ≠ .output) :
    OutputEffect inv op (inv.destroy r dev (fun _ => [])) :=
  output_on h .void fun _ _ =>
    .silent (no_newPwm h) (Inventory.remove_device_of_ne hr.symm) ⟨[_], rfl⟩

/-- A creation that fails returns null. -/
theorem output_failed (call : UprintCall) : OutputEffect inv op (inv.say (.handle 0) [call]) :=
  .silent (fun _ _ => rfl) rfl ⟨[call], rfl⟩

theorem output_create (hne : fresh ≠ 0) (hnew : inv.device .output fresh = none)
    {mk : Nat → Output} {report : Output → UprintCall} {lowMemory : UprintCall}
    (h : ∀ uuid, BspOp.newPwm op = some (mk uuid).pwmId ∧ (mk uuid).duty = 0) :
    OutputEffect inv op (inv.create fresh .output mk (fun out => [.pwmInit out.pwmId]) report
      lowMemory) := by
  rw [Inventory.create]
  split
  · exact output_failed _
  · refine .created fresh (mk (inv.nextUuid .output)) (report (mk (inv.nextUuid .output)))
      (h _).1 rfl hne hnew (h _).2 ?_ rfl
    exact Inventory.add_device_kind .output _ _

theorem output_createWithUuid (hne : fresh ≠ 0) (hnew : inv.device .output fresh = none)
    {rec : Output} {report : Output → UprintCall}
    {lowMemory duplicate : UprintCall}
    (h : BspOp.newPwm op = some rec.pwmId) (hduty : rec.duty = 0) :
    OutputEffect inv op (inv.createWithUuid fresh .output rec (fun out => [.pwmInit out.pwmId])
      report lowMemory duplicate) := by
  rw [Inventory.createWithUuid]
  split
  · exact output_failed _
  · split
    · exact output_failed _
    · exact .created fresh rec (report rec) h rfl hne hnew hduty (Inventory.add_device_kind ..) rfl

theorem output_destroy (h : BspOp.newPwm op = none) :
    OutputEffect inv op (inv.destroy .output dev
      (fun rec => [.pwmSetDuty rec.pwmId 0, .pwmDeinit rec.pwmId])) := by
  refine output_on h .void fun rec hrec => ?_
  exact .destroyed dev rec _ h hrec (Inventory.remove_device_kind ..) rfl

theorem device_outputs (hne : fresh ≠ 0) (hnew : inv.device .output fresh = none)
    (dop : DeviceOp) :
    OutputEffect inv (.device dop) (inv.deviceCall t fresh dop) := by
  cases dop with
  | ledCreate | ledRgbCreate | buttonCreate =>
      rw [Inventory.deviceCall]
      exact output_create_other rfl (by decide)
  | ledCreateWithUuid | ledRgbCreateWithUuid | buttonCreateWithUuid =>
      rw [Inventory.deviceCall]
      exact output_createWithUuid_other rfl (by decide)
  | ledDestroy | ledRgbDestroy | buttonDestroy => exact output_destroy_other rfl (by decide)
  | outputCreate name pwmId =>
      rw [Inventory.deviceCall]
      exact output_create hne hnew fun _ => ⟨rfl, rfl⟩
  | outputCreateWithUuid name pwmId uuid =>
      rw [Inventory.deviceCall]
      exact output_createWithUuid hne hnew rfl rfl
  | outputDestroy out => exact output_destroy rfl

/-- **What a call asks of the hardware.** -/
theorem call_outputs (t : Target) (hne : fresh ≠ 0) (hfresh : ∀ r, fresh ∉ inv.live r)
    (op : BspOp) : OutputEffect inv op (inv.call t fresh op) := by
  cases op with
  | device dop =>
      refine device_outputs hne ?_ dop
      rw [← Option.not_isSome_iff_eq_none, ← inv.listed]
      exact hfresh .output
  | outputSet out duty => exact output_set rfl out duty
  | outputOn out => exact output_set rfl out 100
  | outputOff out => exact output_set rfl out 0
  | ledRgbControl led call =>
      refine output_on rfl _ fun rec _ => output_quiet rfl ?_ _
      rw [Inventory.setPins_device]
      exact Inventory.edit_device_of_ne (by decide) _
  | ledInvertLogic | ledRgbInvertLogic | buttonInvertLogic | buttonUpdate | buttonGetEvent =>
      refine output_on rfl _ fun _ _ => output_quiet rfl (Inventory.edit_device_of_ne ?_ _) _
      decide
  | ledTurnOn | ledTurnOff | ledToggle =>
      refine output_on rfl _ fun _ _ => output_quiet rfl ?_ _
      rw [Inventory.setPins_device]
  | ledDisplayInfo | ledRgbGetColor | ledRgbDisplayInfo | outputGetDuty | outputDisplayInfo
  | buttonIsPressed | buttonDisplayInfo => exact output_on rfl _ fun _ _ => output_say rfl _ _
  | ledGetByUuid | ledDisplayAll | ledRgbGetByUuid | ledRgbDisplayAll | outputGetByUuid
  | outputDisplayAll | buttonGetByUuid | buttonDisplayAll => exact output_say rfl _ _

/-! ## Outputs and instances -/

/-- Every output runs an instance of its own at its duty, and the other instances are off. -/
structure Drives (outputs : Nat → Option Output) (st : UInt8 → Pwm) : Prop where
  apart : ∀ out out' rec rec', outputs out = some rec → outputs out' = some rec' →
    rec.pwmId = rec'.pwmId → out = out'
  running : ∀ out rec, outputs out = some rec →
    ∃ asked, st rec.pwmId = .on asked ∧ asked.getD 0 = rec.duty
  idle : ∀ id, (∀ out rec, outputs out = some rec → rec.pwmId ≠ id) → st id = .off

variable {outputs : Nat → Option Output} {st : UInt8 → Pwm} {out : Nat} {rec : Output}

theorem drives_empty : Drives (fun _ => none) (fun _ => .off) where
  apart := by
    intro out out' rec rec' h
    cases h
  running := by
    intro out rec h
    cases h
  idle := fun _ _ => rfl

/-- A new output is put on an instance that is off. -/
theorem Drives.created (h : Drives outputs st) (hnew : outputs out = none)
    (hfree : ∀ out' rec', outputs out' = some rec' → rec'.pwmId ≠ rec.pwmId)
    (hduty : rec.duty = 0) :
    Drives (Function.update outputs out (some rec))
      (Function.update st rec.pwmId (.on none)) where
  apart := by
    intro o o' r r' ho ho' hid
    simp only [Function.update_apply] at ho ho'
    by_cases hoo : o = out
    · by_cases hoo' : o' = out
      · rw [hoo, hoo']
      · rw [if_pos hoo] at ho
        rw [if_neg hoo'] at ho'
        rw [← Option.some.inj ho] at hid
        exact absurd hid.symm (hfree o' r' ho')
    · rw [if_neg hoo] at ho
      by_cases hoo' : o' = out
      · rw [if_pos hoo'] at ho'
        rw [← Option.some.inj ho'] at hid
        exact absurd hid (hfree o r ho)
      · rw [if_neg hoo'] at ho'
        exact h.apart o o' r r' ho ho' hid
  running := by
    intro o r ho
    simp only [Function.update_apply] at ho ⊢
    by_cases hoo : o = out
    · rw [if_pos hoo] at ho
      rw [← Option.some.inj ho, if_pos rfl, hduty]
      exact ⟨none, rfl, rfl⟩
    · rw [if_neg hoo] at ho
      rw [if_neg (hfree o r ho)]
      exact h.running o r ho
  idle := by
    intro id hid
    simp only [Function.update_apply] at hid ⊢
    have hne : id ≠ rec.pwmId := fun he => hid out rec (if_pos rfl) he.symm
    rw [if_neg hne]
    refine h.idle id fun o r ho => hid o r ?_
    rw [if_neg, ho]
    rintro rfl
    rw [hnew] at ho
    cases ho

/-- An output is driven. -/
theorem Drives.driven (h : Drives outputs st) (hout : outputs out = some rec) (duty : UInt8) :
    Drives (Function.update outputs out (some (rec.set duty)))
      (Function.update st rec.pwmId (.on (some (rec.set duty).duty))) where
  apart := by
    intro o o' r r' ho ho' hid
    -- the instances are the ones there were
    have hold : ∀ {o r}, Function.update outputs out (some (rec.set duty)) o = some r →
        ∃ r₀, outputs o = some r₀ ∧ r₀.pwmId = r.pwmId := by
      intro o r ho
      rw [Function.update_apply] at ho
      by_cases hoo : o = out
      · rw [if_pos hoo] at ho
        rw [hoo, ← Option.some.inj ho]
        exact ⟨rec, hout, rfl⟩
      · rw [if_neg hoo] at ho
        exact ⟨r, ho, rfl⟩
    obtain ⟨r₀, hr₀, hid₀⟩ := hold ho
    obtain ⟨r₁, hr₁, hid₁⟩ := hold ho'
    exact h.apart o o' r₀ r₁ hr₀ hr₁ (by rw [hid₀, hid₁, hid])
  running := by
    intro o r ho
    simp only [Function.update_apply] at ho ⊢
    by_cases hoo : o = out
    · rw [if_pos hoo] at ho
      rw [← Option.some.inj ho]
      exact ⟨some (rec.set duty).duty, if_pos rfl, rfl⟩
    · rw [if_neg hoo] at ho
      rw [if_neg fun hid => hoo (h.apart o out r rec ho hout hid)]
      exact h.running o r ho
  idle := by
    intro id hid
    simp only [Function.update_apply] at hid ⊢
    have hne : id ≠ rec.pwmId := fun he => hid out (rec.set duty) (if_pos rfl) he.symm
    rw [if_neg hne]
    refine h.idle id fun o r ho => ?_
    by_cases hoo : o = out
    · rw [hoo, hout] at ho
      rw [← Option.some.inj ho]
      exact hne.symm
    · exact hid o r (by rw [if_neg hoo, ho])

/-- An output goes, and its instance is off. -/
theorem Drives.destroyed (h : Drives outputs st) (hout : outputs out = some rec) :
    Drives (Function.update outputs out none) (Function.update st rec.pwmId .off) where
  apart := by
    intro o o' r r' ho ho' hid
    simp only [Function.update_apply] at ho ho'
    by_cases hoo : o = out
    · rw [if_pos hoo] at ho
      cases ho
    · rw [if_neg hoo] at ho
      by_cases hoo' : o' = out
      · rw [if_pos hoo'] at ho'
        cases ho'
      · rw [if_neg hoo'] at ho'
        exact h.apart o o' r r' ho ho' hid
  running := by
    intro o r ho
    simp only [Function.update_apply] at ho ⊢
    by_cases hoo : o = out
    · rw [if_pos hoo] at ho
      cases ho
    · rw [if_neg hoo] at ho
      rw [if_neg fun hid => hoo (h.apart o out r rec ho hout hid)]
      exact h.running o r ho
  idle := by
    intro id hid
    simp only [Function.update_apply] at hid ⊢
    by_cases he : id = rec.pwmId
    · exact if_pos he
    · rw [if_neg he]
      refine h.idle id fun o r ho => ?_
      by_cases hoo : o = out
      · rw [hoo, hout] at ho
        rw [← Option.some.inj ho]
        exact Ne.symm he
      · exact hid o r (by rw [if_neg hoo, ho])

/-! ## The events of a call -/

theorem pwmRun_append (id : UInt8) (s : Pwm) (es es' : List DeviceEvent) :
    pwmRun id s (es ++ es') = (pwmRun id s es).bind fun s' => pwmRun id s' es' := by
  rw [pwmRun, List.foldlM_append]
  rfl

/-- An output is never driven with more than everything. -/
theorem set_duty_le (rec : Output) (duty : UInt8) : (rec.set duty).duty ≤ 100 := by
  show (if duty ≤ 100 then duty else 100) ≤ 100
  split
  · assumption
  · decide

/-- Messages ask for nothing. -/
theorem pwmRun_uprint (id : UInt8) (s : Pwm) (calls : List UprintCall) :
    pwmRun id s (calls.map .uprint) = some s := by
  induction calls with
  | nil => rfl
  | cons call calls ih => exact ih

theorem pwmRun_created (st : UInt8 → Pwm) (pwmId : UInt8) (call : UprintCall)
    (hoff : st pwmId = .off) (id : UInt8) :
    pwmRun id (st id) [.pwmInit pwmId, .uprint call]
      = some (Function.update st pwmId (.on none) id) := by
  by_cases hid : pwmId = id
  · subst hid
    rw [Function.update_self]
    simp [pwmRun, pwmStep, hoff]
  · rw [Function.update_of_ne (Ne.symm hid)]
    simp [pwmRun, pwmStep, hid]

theorem pwmRun_driven (st : UInt8 → Pwm) (pwmId duty : UInt8) {asked : Option UInt8}
    (hon : st pwmId = .on asked) (hduty : duty ≤ 100) (id : UInt8) :
    pwmRun id (st id) [.pwmSetDuty pwmId duty]
      = some (Function.update st pwmId (.on (some duty)) id) := by
  by_cases hid : pwmId = id
  · subst hid
    rw [Function.update_self]
    simp [pwmRun, pwmStep, hon, hduty]
  · rw [Function.update_of_ne (Ne.symm hid)]
    simp [pwmRun, pwmStep, hid]

theorem pwmRun_destroyed (st : UInt8 → Pwm) (pwmId : UInt8) (call : UprintCall)
    {asked : Option UInt8} (hon : st pwmId = .on asked) (id : UInt8) :
    pwmRun id (st id) [.pwmSetDuty pwmId 0, .pwmDeinit pwmId, .uprint call]
      = some (Function.update st pwmId .off id) := by
  by_cases hid : pwmId = id
  · subst hid
    rw [Function.update_self]
    simp [pwmRun, pwmStep, hon]
  · rw [Function.update_of_ne (Ne.symm hid)]
    simp [pwmRun, pwmStep, hid]

/-- The call puts a new output on a taken instance. -/
def Shares (outputs : Nat → Option Output) (op : BspOp) (answer : BspAnswer) : Prop :=
  ∃ id ∈ BspOp.newPwm op, answer.ret ≠ .handle 0
    ∧ ∃ out rec, outputs out = some rec ∧ rec.pwmId = id

/-- Every call but such a one asks for what may be asked for. -/
theorem OutputEffect.accepted (h : OutputEffect inv op (inv', answer))
    (hst : Drives (inv.device .output) st) (hfree : ¬ Shares (inv.device .output) op answer) :
    ∃ st', Drives (inv'.device .output) st'
      ∧ ∀ id, pwmRun id (st id) answer.events = some (st' id) := by
  cases h with
  | silent failed device events =>
      obtain ⟨calls, hev⟩ := events
      refine ⟨st, by rwa [device], fun id => ?_⟩
      rw [hev, pwmRun_uprint]
  | created out rec call asked ret handle new duty device events =>
      have hother : ∀ out' rec', inv.device .output out' = some rec' → rec'.pwmId ≠ rec.pwmId := by
        intro out' rec' hout' hid
        exact hfree ⟨rec.pwmId, asked, by rw [ret]; simpa using handle, out', rec', hout', hid⟩
      refine ⟨_, by rw [device]; exact hst.created new hother duty, fun id => ?_⟩
      rw [events]
      exact pwmRun_created st rec.pwmId call (hst.idle _ hother) id
  | driven out rec duty new there device events =>
      obtain ⟨asked, hon, _⟩ := hst.running out rec there
      refine ⟨_, by rw [device]; exact hst.driven there duty, fun id => ?_⟩
      rw [events]
      exact pwmRun_driven st rec.pwmId _ hon (set_duty_le rec duty) id
  | destroyed out rec call new there device events =>
      obtain ⟨asked, hon, _⟩ := hst.running out rec there
      refine ⟨_, by rw [device]; exact hst.destroyed there, fun id => ?_⟩
      rw [events]
      exact pwmRun_destroyed st rec.pwmId call hon id

/-- Such a one initialises an instance that is running. -/
theorem OutputEffect.rejected (h : OutputEffect inv op (inv', answer))
    (hst : Drives (inv.device .output) st) (hshares : Shares (inv.device .output) op answer) :
    ∃ id, pwmRun id (st id) answer.events = none := by
  obtain ⟨id, hid, hret, out', rec', hout', rfl⟩ := hshares
  cases h with
  | silent failed device events => exact absurd (failed _ hid) hret
  | created out rec call asked ret handle new duty device events =>
      have hsame : rec.pwmId = rec'.pwmId := Option.some.inj (asked.symm.trans hid)
      obtain ⟨on, hon, _⟩ := hst.running out' rec' hout'
      refine ⟨rec'.pwmId, ?_⟩
      rw [events, hsame, hon]
      simp [pwmRun, pwmStep]
  | driven out rec duty new there device events =>
      rw [new] at hid
      cases hid
  | destroyed out rec call new there device events =>
      rw [new] at hid
      cases hid

/-! ## Runs -/

/-- What the library sees of a shared instance is what the inventory does. -/
theorem sharesPwm_iff {w w' : BspWorld} (hR : Represents d w inv)
    (hcall : bspCall d fuel w op = some (w', answer)) :
    SharesPwm d fuel w op ↔ Shares (inv.device .output) op answer := by
  rw [SharesPwm, Shares]
  refine exists_congr fun id => and_congr_right fun _ => ?_
  constructor
  · rintro ⟨⟨out, hout, hid⟩, res, hres, hret⟩
    obtain ⟨rec, hrec, hholds⟩ := hR.device hout
    obtain rfl : (w', answer) = res := Option.some.inj (hcall.symm.trans hres)
    rw [outputPwmId_eq hholds] at hid
    exact ⟨hret, out, rec, hrec, hid⟩
  · rintro ⟨hret, out, rec, hrec, hid⟩
    refine ⟨⟨out, ?_, ?_⟩, (w', answer), hcall, hret⟩
    · rw [← hR.live]
      exact Inventory.mem_live hrec
    · rw [outputPwmId_eq (hR.records .output out rec hrec), hid]

/-- What a run asks of the hardware. -/
def eventsOf (answers : List BspAnswer) : List DeviceEvent := answers.flatMap (·.events)

/-- **From any state where outputs and instances agree.** -/
theorem pwm_run (hf : 64 < fuel) (ops : List BspOp) {w : BspWorld} (hR : Represents d w inv)
    (hst : Drives (inv.device .output) st)
    (hal : AllowedAll (bspCall d fuel) (BspAllowed t) w ops) :
    ∃ w' answers, bspRun d fuel w ops = some (w', answers)
      ∧ ((∀ id, (pwmRun id (st id) (eventsOf answers)).isSome)
        ↔ AllowedAll (bspCall d fuel) (fun w op => ¬ SharesPwm d fuel w op) w ops)
      ∧ (AllowedAll (bspCall d fuel) (fun w op => ¬ SharesPwm d fuel w op) w ops →
        ∃ inv' st', Represents d w' inv' ∧ Drives (inv'.device .output) st'
          ∧ ∀ id, pwmRun id (st id) (eventsOf answers) = some (st' id)) := by
  induction ops generalizing w inv st with
  | nil => exact ⟨w, [], rfl, ⟨fun _ => trivial, fun _ _ => rfl⟩,
      fun _ => ⟨inv, st, hR, hst, fun _ => rfl⟩⟩
  | cons op ops ih =>
      obtain ⟨w₁, answer, inv₁, hcall, ⟨fresh, hne, hfresh, hspec⟩, hR₁⟩ :=
        bsp_simulates d hf w inv op hR hal.1
      have heff : OutputEffect inv op (inv₁, answer) := by
        rw [← hspec]
        exact call_outputs t hne hfresh op
      have hshare := sharesPwm_iff hR hcall
      have htail : AllowedAll (bspCall d fuel) (BspAllowed t) w₁ ops := hal.2 _ hcall
      by_cases hs : Shares (inv.device .output) op answer
      · -- the run goes on, but it is not in order any more
        obtain ⟨w', answers, _, hrun, _⟩ := (bsp_simulates d hf).run ops hR₁ htail
        obtain ⟨id, hbad⟩ := heff.rejected hst hs
        refine ⟨w', answer :: answers, runAll_cons hcall hrun, ⟨fun h => ?_, fun h => ?_⟩,
          fun h => ?_⟩
        · have := h id
          rw [eventsOf, List.flatMap_cons, pwmRun_append, hbad] at this
          cases this
        · exact absurd (hshare.mpr hs) h.1
        · exact absurd (hshare.mpr hs) h.1
      · obtain ⟨st₁, hst₁, hev⟩ := heff.accepted hst hs
        obtain ⟨w', answers, hrun, hiff, hend⟩ := ih hR₁ hst₁ htail
        have hstep : ∀ id, pwmRun id (st id) (eventsOf (answer :: answers))
            = pwmRun id (st₁ id) (eventsOf answers) := by
          intro id
          rw [eventsOf, List.flatMap_cons, pwmRun_append, hev id]
          rfl
        have hall : AllowedAll (bspCall d fuel) (fun w op => ¬ SharesPwm d fuel w op) w (op :: ops)
            ↔ AllowedAll (bspCall d fuel) (fun w op => ¬ SharesPwm d fuel w op) w₁ ops := by
          constructor
          · intro h
            exact h.2 _ hcall
          · intro h
            refine ⟨fun hsp => hs (hshare.mp hsp), fun res hres => ?_⟩
            obtain rfl : (w₁, answer) = res := Option.some.inj (hcall.symm.trans hres)
            exact h
        refine ⟨w', answer :: answers, runAll_cons hcall hrun, ?_, fun h => ?_⟩
        · simp only [hstep]
          rw [hiff, hall]
        · obtain ⟨inv', st', hR', hst', hrun'⟩ := hend (hall.mp h)
          exact ⟨inv', st', hR', hst', fun id => (hstep id).trans (hrun' id)⟩

/--
**The outputs keep to the protocol of the PWM hardware, each on its own instance.**

Over any permitted program, what is asked of every instance is in order, an initialisation
before anything else, duties of at most 100 percent, and a duty of 0 right before it is
switched off, if and only if no call puts a new output on the instance of a live one. Then,
at the end, an instance is off just if no live output is on it, and otherwise it runs at the
duty the output's struct records.
-/
theorem outputs_drive_pwm (d : ButtonTimers t) (m : Mem) (pins : Pins) (hf : 64 < fuel)
    (ops : List BspOp)
    (hal : AllowedAll (bspCall d fuel) (BspAllowed t) (BspWorld.start t m pins) ops) :
    ∃ w answers, bspRun d fuel (BspWorld.start t m pins) ops = some (w, answers)
      ∧ ((∀ id, (pwmRun id .off (eventsOf answers)).isSome)
        ↔ AllowedAll (bspCall d fuel) (fun w op => ¬ SharesPwm d fuel w op)
          (BspWorld.start t m pins) ops)
      ∧ ((∀ id, (pwmRun id .off (eventsOf answers)).isSome) →
        ∀ id s, pwmRun id .off (eventsOf answers) = some s →
          (s = .off ↔ ∀ out ∈ w.live .output, outputPwmId t w.devices out ≠ id)
          ∧ ∀ out ∈ w.live .output, outputPwmId t w.devices out = id →
            s.duty = outputDuty t w.devices out) := by
  obtain ⟨w, answers, hrun, hiff, hend⟩ :=
    pwm_run hf ops (represents_start d m pins) drives_empty hal
  refine ⟨w, answers, hrun, hiff, fun hok id s hs => ?_⟩
  obtain ⟨inv, st, hR, hst, hall⟩ := hend (hiff.mp hok)
  obtain rfl : st id = s := Option.some.inj ((hall id).symm.trans hs)
  refine ⟨⟨fun hoff out hout hid => ?_, fun hnone => ?_⟩, fun out hout hid => ?_⟩
  · obtain ⟨rec, hrec, hholds⟩ := hR.device hout
    obtain ⟨asked, hon, _⟩ := hst.running out rec hrec
    rw [outputPwmId_eq hholds] at hid
    rw [hid, hoff] at hon
    cases hon
  · refine hst.idle id fun out rec hrec hid => ?_
    refine hnone out ?_ ?_
    · rw [← hR.live]
      exact Inventory.mem_live hrec
    · rw [outputPwmId_eq (hR.records .output out rec hrec), hid]
  · obtain ⟨rec, hrec, hholds⟩ := hR.device hout
    obtain ⟨asked, hon, hduty⟩ := hst.running out rec hrec
    rw [outputPwmId_eq hholds] at hid
    rw [← hid, hon, outputDuty_eq hholds]
    exact hduty

end

/-- Two outputs; one is driven with too much and destroyed, and its instance is used again. -/
def dimmers : List BspOp :=
  [.device (.outputCreate 8 3), .device (.outputCreate 8 4), .outputSet 0x200007E0 250,
    .device (.outputDestroy 0x200007E0), .device (.outputCreate 8 3), .outputOn 0x200007C0]

theorem dimmers_allowed : AllowedAll (bspCall arm32Timers 65) (BspAllowed arm32)
    (BspWorld.start arm32 (fun _ => 0xAB) (fun _ => 0)) dimmers := by
  decide +kernel

theorem outputs_drive_pwm_dimmers :
    ∃ w answers, bspRun arm32Timers 65 (BspWorld.start arm32 (fun _ => 0xAB) (fun _ => 0)) dimmers
        = some (w, answers)
      ∧ ((∀ id, (pwmRun id .off (eventsOf answers)).isSome) →
        ∀ id s, pwmRun id .off (eventsOf answers) = some s →
          (s = .off ↔ ∀ out ∈ w.live .output, outputPwmId arm32 w.devices out ≠ id)) := by
  obtain ⟨w, answers, hrun, _, hend⟩ := outputs_drive_pwm arm32Timers (fun _ => 0xAB)
    (fun _ => 0) (by decide) dimmers dimmers_allowed
  exact ⟨w, answers, hrun, fun hok id s hs => (hend hok id s hs).1⟩

end FwCore.Proof
