import FwCore.Proof.DeviceRecords
import FwCore.Proof.LedRgbColor

/-!
# What the control functions do to a record

Given the record a struct holds, each function on a handle is a function of the record:
it answers what the record says, drives pins and outputs as the record says, and leaves
the struct holding what the record becomes. For `button_update` that is a walk through
the branches of the state machine, one assignment after the other.
-/

namespace FwCore.Proof

open FwCore Lib

section

variable {t : Target} {d : ButtonTimers t} {r : Registry} {m m' : Mem} {dev : Nat}
  {rec rec' : r.Record} {s : Devices}

/-! ## Reading -/

theorem ofNat8 {n : Nat} {v : UInt8} (h : n = v.toNat) : UInt8.ofNat n = v := by
  rw [h]
  exact UInt8.ofNat_toNat

theorem ofNat32 {n : Nat} {v : UInt32} (h : n = v.toNat) : UInt32.ofNat n = v := by
  rw [h]
  exact UInt32.ofNat_toNat

theorem bne_zero {n : Nat} {b : Bool} (h : n = b.toNat) : (n != 0) = b := by
  subst h
  cases b <;> rfl

theorem uuid8 (uuid : UInt8) : UInt32.ofNat uuid.toNat = uuid.toUInt32 := by
  have hlt : uuid.toNat < 2 ^ 32 := Nat.lt_trans uuid.toNat_lt (by decide)
  refine UInt32.toNat_inj.mp ?_
  rw [UInt32.toNat_ofNat', UInt8.toNat_toUInt32, Nat.mod_eq_of_lt hlt]

theorem uuid32 (uuid : UInt32) : UInt32.ofNat uuid.toNat = uuid := UInt32.ofNat_toNat

/-! ## Assigning -/

/-- An assignment to a field. -/
theorem edits_field {f : Field} {v : Nat} (hf : Member.field f ∈ editable r)
    (hv : v = recordValue r rec' (.field f)) (hname : recordName r rec' = recordName r rec)
    (hfields : ∀ g, g ≠ f → recordValue r rec' (.field g) = recordValue r rec (.field g))
    (htimers : ∀ k g, recordValue r rec' (.timer k g) = recordValue r rec (.timer k g)) :
    Edits d r dev m (setField t r m dev f v) rec rec' := by
  refine edits_set hf hv hname (fun j _ hne => ?_)
  cases j with
  | field g => exact hfields g (fun hg => hne (hg ▸ rfl))
  | timer k g => exact htimers k g

/-! ## Single LED -/

section

variable {led : Led} (h : Holds d .led s.mem dev led)
include h

theorem ledPinId_eq : ledPinId t s dev = led.pinId := ofNat8 (h.field (f := .pinId) (by decide))

theorem ledInverted_eq : ledInverted t s dev = led.inverted :=
  bne_zero (h.field (f := .inverted) (by decide))

theorem ledTurnOn_eq (h0 : dev ≠ 0) (pins : Pins) (status : IoStatus) :
    ledTurnOn t s pins status dev = ioWrite pins status led.pinId (led.level true) := by
  rw [ledTurnOn, if_neg h0, ledPinId_eq h, ledInverted_eq h, Led.level]
  cases led.inverted <;> rfl

theorem ledTurnOff_eq (h0 : dev ≠ 0) (pins : Pins) (status : IoStatus) :
    ledTurnOff t s pins status dev = ioWrite pins status led.pinId (led.level false) := by
  rw [ledTurnOff, if_neg h0, ledPinId_eq h, ledInverted_eq h, Led.level]
  cases led.inverted <;> rfl

theorem ledToggle_eq (h0 : dev ≠ 0) (pins : Pins) (status : IoStatus) :
    ledToggle t s pins status dev = ioToggle pins status led.pinId := by
  rw [ledToggle, if_neg h0, ledPinId_eq h]

/-- The arguments of an LED's messages. -/
theorem led_args : [nameArg t .led s.mem dev, uuidArg t .led s.mem dev,
      .unsigned (ledPinId t s dev).toUInt32]
    = [.str led.name, .unsigned led.uuid, .unsigned led.pinId.toUInt32] := by
  rw [h.nameArg, h.uuidArg, ledPinId_eq h]
  show [_, UprintArg.unsigned (UInt32.ofNat led.uuid.toNat), _] = _
  rw [uuid32]
  rfl

end

theorem edits_ledInverted (led : Led) :
    Edits d .led dev m (setField t .led m dev .inverted 1) led { led with inverted := true } :=
  edits_field (by decide) rfl rfl (fun g hg => by cases g <;> simp_all [recordValue])
    (fun _ _ => rfl)

/-! ## RGB LED -/

section

variable {led : RgbLed} (h : Holds d .ledRgb s.mem dev led)
include h

theorem ledRgbAt_eq : ledRgbAt t s dev = led.led := by
  have hr : ledRgbPin t s dev .pinR = led.led.pinR := ofNat8 (h.field (by decide))
  have hg : ledRgbPin t s dev .pinG = led.led.pinG := ofNat8 (h.field (by decide))
  have hb : ledRgbPin t s dev .pinB = led.led.pinB := ofNat8 (h.field (by decide))
  have hi : (getField t .ledRgb s.mem dev .inverted != 0) = led.led.inverted :=
    bne_zero (h.field (by decide))
  have hc : getField t .ledRgb s.mem dev .currentColor = led.led.currentColor.code :=
    h.field (by decide)
  rw [ledRgbAt, hr, hg, hb, hi, hc, ledRgbColorOf_code]

/-- The arguments of an RGB LED's messages. -/
theorem ledRgb_args : nameArg t .ledRgb s.mem dev = .str led.name
    ∧ uuidArg t .ledRgb s.mem dev = .unsigned led.uuid.toUInt32 := by
  refine ⟨h.nameArg, h.uuidArg.trans ?_⟩
  rw [← uuid8]
  rfl

end

theorem edits_rgbInverted (led : RgbLed) :
    Edits d .ledRgb dev m (setField t .ledRgb m dev .inverted 1) led
      { led with led := ledRgbInvertLogic led.led } :=
  edits_field (by decide) rfl rfl (fun g hg => by
    cases g <;> simp_all [recordValue, ledRgbInvertLogic]) (fun _ _ => rfl)

theorem edits_rgbColor (led : RgbLed) (color : LedRgbColor) :
    Edits d .ledRgb dev m (setField t .ledRgb m dev .currentColor color.code) led
      { led with led := { led.led with currentColor := color } } :=
  edits_field (by decide) rfl rfl (fun g hg => by cases g <;> simp_all [recordValue])
    (fun _ _ => rfl)

/-- A control call leaves everything in the record but the color alone, and that if it fails. -/
theorem ledRgbSet_led (led : LedRgb) (pins : Pins) (w : RgbWrites) (color : LedRgbColor) :
    ((ledRgbSet led pins w color).status ≠ .ok → (ledRgbSet led pins w color).led = led)
      ∧ ((ledRgbSet led pins w color).status = .ok → ∃ c,
          (ledRgbSet led pins w color).led = { led with currentColor := c }) := by
  unfold ledRgbSet
  dsimp only
  split
  · exact ⟨fun _ => rfl, fun h => absurd h ‹_›⟩
  · exact ⟨fun h => absurd rfl h, fun _ => ⟨color, rfl⟩⟩

theorem ledRgbCall_led (led : LedRgb) (pins : Pins) (call : RgbCall) :
    ((ledRgbCall led pins call).status ≠ .ok → (ledRgbCall led pins call).led = led)
      ∧ ((ledRgbCall led pins call).status = .ok → ∃ c,
          (ledRgbCall led pins call).led = { led with currentColor := c }) := by
  rw [ledRgbCall_eq]
  exact ledRgbSet_led led pins call.writes _

/-- Every control function is its record's, on a handle that is not null. -/
theorem ledRgbControlAt_eq (s : Devices) (pins : Pins) (h0 : dev ≠ 0) (call : RgbCall) :
    ledRgbControlAt t s pins dev call
      = ledRgbAssign t s dev (ledRgbCall (ledRgbAt t s dev) pins call) := by
  unfold ledRgbControlAt ledRgbCall
  cases call.op with
  | set color => exact if_neg h0
  | setRaw r g b => exact if_neg h0
  | off => exact if_neg h0
  | toggle color =>
      dsimp only
      unfold ledRgbToggleAt ledRgbToggle
      rw [if_neg h0]
      by_cases hoff : (ledRgbAt t s dev).currentColor = .off
      · rw [if_pos hoff, if_pos hoff]
        exact if_neg h0
      · rw [if_neg hoff, if_neg hoff]
        exact if_neg h0

/-- **A control call drives the pins and sets the color as the record's does.** -/
theorem ledRgbControlAt_spec {led : RgbLed} (h : Holds d .ledRgb s.mem dev led) (h0 : dev ≠ 0)
    (pins : Pins) (call : RgbCall) :
    ∃ m', ledRgbControlAt t s pins dev call = ((ledRgbCall led.led pins call).status,
        { s with mem := m' }, (ledRgbCall led.led pins call).pins)
      ∧ Edits d .ledRgb dev s.mem m' led
          { led with led := (ledRgbCall led.led pins call).led } := by
  obtain ⟨hfail, hok⟩ := ledRgbCall_led led.led pins call
  rw [ledRgbControlAt_eq s pins h0, ledRgbAt_eq h, ledRgbAssign]
  by_cases hs : (ledRgbCall led.led pins call).status = .ok
  · rw [if_neg (by simpa using hs)]
    obtain ⟨c, hc⟩ := hok hs
    refine ⟨_, rfl, ?_⟩
    rw [hc]
    exact edits_rgbColor led c
  · rw [if_pos hs]
    refine ⟨s.mem, rfl, ?_⟩
    rw [hfail hs]
    exact Edits.refl _ _ _ _

/-! ## Output -/

section

variable {out : Output} (h : Holds d .output s.mem dev out)
include h

theorem outputPwmId_eq : outputPwmId t s dev = out.pwmId := ofNat8 (h.field (by decide))

theorem outputDuty_eq : outputDuty t s dev = out.duty := ofNat8 (h.field (by decide))

theorem outputArgs_eq : outputArgs t s dev
    = [.str out.name, .unsigned out.uuid, .unsigned out.duty.toUInt32] := by
  rw [outputArgs, h.nameArg, h.uuidArg, outputDuty_eq h]
  show [_, UprintArg.unsigned (UInt32.ofNat out.uuid.toNat), _] = _
  rw [uuid32]
  rfl

end

theorem edits_duty (out : Output) (percent : UInt8) :
    Edits d .output dev m (setField t .output m dev .duty percent.toNat) out
      { out with duty := percent } :=
  edits_field (by decide) rfl rfl (fun g hg => by cases g <;> simp_all [recordValue])
    (fun _ _ => rfl)

theorem duty_min (dutyPercent : UInt8) :
    (if dutyPercent > 100 then 100 else dutyPercent) = min dutyPercent 100 := by
  show _ = if dutyPercent ≤ 100 then dutyPercent else 100
  by_cases hd : dutyPercent > 100
  · rw [if_pos hd, if_neg (UInt8.not_le.mpr hd)]
  · rw [if_neg hd, if_pos (UInt8.not_lt.mp hd)]

/-- **`output_set` stores the duty it drives the output with.** -/
theorem outputSet_eq {out : Output} (h : Holds d .output s.mem dev out) (h0 : dev ≠ 0)
    (dutyPercent : UInt8) :
    ∃ m', outputSet t s dev dutyPercent
        = ({ s with mem := m' }, [.pwmSetDuty out.pwmId (out.set dutyPercent).duty])
      ∧ Edits d .output dev s.mem m' out (out.set dutyPercent) := by
  have hedit : Edits d .output dev s.mem
      (setField t .output s.mem dev .duty (min dutyPercent 100).toNat) out (out.set dutyPercent) :=
    edits_duty out (min dutyPercent 100)
  refine ⟨_, ?_, hedit⟩
  rw [outputSet, if_neg h0, duty_min]
  dsimp only
  have hpwm : outputPwmId t
      { s with mem := setField t .output s.mem dev .duty (min dutyPercent 100).toNat } dev
      = (out.set dutyPercent).pwmId := outputPwmId_eq (hedit.holds h)
  rw [hpwm]
  rfl

/-! ## Button -/

section

variable {btn : Button} (h : Holds d .button m dev btn)
include h

theorem buttonMs_debounce : buttonMs t m dev .debounceMs = btn.debounceMs :=
  ofNat32 (h.field (by decide))

theorem buttonMs_hold : buttonMs t m dev .holdTimeMs = btn.holdTimeMs :=
  ofNat32 (h.field (by decide))

theorem buttonPinId_eq : buttonPinId t m dev = btn.pinId := ofNat8 (h.field (by decide))

theorem readPinActiveAt_eq (pin : IoRead) :
    readPinActiveAt t m dev pin = readPinActive btn pin := by
  have hi : (getField t .button m dev .inverted != 0) = btn.inverted :=
    bne_zero (h.field (by decide))
  rw [readPinActiveAt, readPinActive, hi]

theorem btnState_eq : btnStateOf (getField t .button m dev .state) = some btn.state := by
  have hs : getField t .button m dev .state = btn.state.code := h.field (by decide)
  rw [hs, btnStateOf_code]

theorem timerAt_debounce : TimerAt d.timer m (dev + d.offset .debounce) btn.debounceTimer := by
  intro f
  rw [← get_timer]
  exact h.data _ (by cases f <;> decide)

theorem timerAt_hold : TimerAt d.timer m (dev + d.offset .hold) btn.holdTimer := by
  intro f
  rw [← get_timer]
  exact h.data _ (by cases f <;> decide)

end

theorem edits_btnInverted (btn : Button) :
    Edits d .button dev m (setField t .button m dev .inverted 1) btn (buttonInvertLogic btn) :=
  edits_field (by decide) rfl rfl (fun g hg => by
    cases g <;> simp_all [recordValue, buttonInvertLogic]) (fun k _ => by cases k <;> rfl)

theorem edits_state (btn : Button) (state : BtnState) :
    Edits d .button dev m (setState t m dev state) btn { btn with state := state } :=
  edits_field (by decide) rfl rfl (fun g hg => by cases g <;> simp_all [recordValue])
    (fun k _ => by cases k <;> rfl)

theorem edits_pressed (btn : Button) (pressed : Bool) :
    Edits d .button dev m (setPressed t m dev pressed) btn { btn with isPressed := pressed } :=
  edits_field (by decide) rfl rfl (fun g hg => by cases g <;> simp_all [recordValue])
    (fun k _ => by cases k <;> rfl)

/-- What is recorded of the events stored is no part of the struct. -/
theorem edits_pending (btn : Button) (ev : ButtonEvent) (stored : List ButtonEvent) :
    Edits d .button dev m (setPending t m dev ev) btn
      { btn with pendingEvent := ev, stored := stored } :=
  edits_field (by decide) rfl rfl (fun g hg => by cases g <;> simp_all [recordValue])
    (fun k _ => by cases k <;> rfl)

/-- The bytes of a timer are the bytes of its members. -/
theorem timer_only {k : ButtonTimer} (h : d.timer.Only (dev + d.offset k) timerMembers m m') :
    (deviceLayout d .button).Only dev (timerMembers.map (.timer k)) m m' := by
  intro x hx
  refine h x (fun f hf hxf => hx (.timer k f) (List.mem_map.mpr ⟨f, hf, rfl⟩) ?_)
  obtain ⟨hlo, hhi⟩ := hxf
  rw [d.timer.width_eq] at hhi
  refine ⟨?_, ?_⟩
  · show dev + (d.offset k + d.timer.offset f) ≤ x
    omega
  · show x < dev + (d.offset k + d.timer.offset f) + f.width
    omega

/-- A timer of a button changes. -/
theorem edits_timer {k : ButtonTimer} {btn btn' : Button} {timer : SimpleTimer}
    (htimer : TimerAt d.timer m' (dev + d.offset k) timer)
    (honly : d.timer.Only (dev + d.offset k) timerMembers m m')
    (hself : ∀ f, recordValue .button btn' (.timer k f) = timer.value f)
    (hname : btn'.name = btn.name)
    (hrest : ∀ i, (∀ f, i ≠ .timer k f) → recordValue .button btn' i = recordValue .button btn i) :
    Edits d .button dev m m' btn btn' := by
  have hmem : timerMembers.map (Member.timer k) ⊆ editable .button := by
    cases k <;> decide
  have hsub : timerMembers.map (Member.timer k) ⊆ Registry.button.members :=
    fun i hi => data_mem (editable_data (hmem hi))
  have ho := timer_only honly
  refine ⟨ho.mono hmem, fun h => ⟨?_, fun i hi => ?_⟩⟩
  · have hget : getField t .button m' dev .name = getField t .button m dev .name :=
      ho.get_eq hsub (field_members (name_mem .button)) (by simp [timerMembers])
    rw [hget, h.name]
    exact hname.symm
  · by_cases hown : ∃ f, i = .timer k f
    · obtain ⟨f, rfl⟩ := hown
      rw [get_timer, htimer f, hself f]
    · rw [not_exists] at hown
      rw [ho.get_eq hsub (data_mem hi) (by
        intro hm
        obtain ⟨f, _, hf⟩ := List.mem_map.mp hm
        exact hown f hf.symm), h.data i hi, hrest i hown]

theorem edits_debounceTimer (btn : Button) {timer : SimpleTimer}
    (htimer : TimerAt d.timer m' (dev + d.offset .debounce) timer)
    (honly : d.timer.Only (dev + d.offset .debounce) timerMembers m m') :
    Edits d .button dev m m' btn { btn with debounceTimer := timer } := by
  refine edits_timer htimer honly (fun _ => rfl) rfl (fun i hi => ?_)
  rcases i with f | ⟨k, f⟩
  · cases f <;> rfl
  · cases k with
    | debounce => exact absurd rfl (hi f)
    | hold => rfl

theorem edits_holdTimer (btn : Button) {timer : SimpleTimer}
    (htimer : TimerAt d.timer m' (dev + d.offset .hold) timer)
    (honly : d.timer.Only (dev + d.offset .hold) timerMembers m m') :
    Edits d .button dev m m' btn { btn with holdTimer := timer } := by
  refine edits_timer htimer honly (fun _ => rfl) rfl (fun i hi => ?_)
  rcases i with f | ⟨k, f⟩
  · cases f <;> rfl
  · cases k with
    | debounce => rfl
    | hold => exact absurd rfl (hi f)

end

end FwCore.Proof
