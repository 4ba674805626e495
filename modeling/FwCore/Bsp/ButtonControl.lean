import FwCore.Bsp.Button
import FwCore.Bsp.ButtonRegistry
import FwCore.Bsp.DeviceStruct

/-!
# Buttons: configuration, update, events (`bsp/button.c`)

The state machine of `Button.lean` once more, as the source has it: on the struct a
handle leads to, which may be null, one assignment after the other.
-/

namespace FwCore

open Lib

/-- The values of `btn_state_e`. -/
def BtnState.code : BtnState → Nat
  | .idle => 0
  | .debounce => 1
  | .pressed => 2
  | .held => 3
  | .releaseDb => 4

/-- The state with a value, if there is one. -/
def btnStateOf : Nat → Option BtnState
  | 0 => some .idle
  | 1 => some .debounce
  | 2 => some .pressed
  | 3 => some .held
  | 4 => some .releaseDb
  | _ => none

/-- The values of `button_event_e`. -/
def ButtonEvent.code : ButtonEvent → Nat
  | .none => 0
  | .pressed => 1
  | .released => 2
  | .held => 3

/-- The event with a value; any other value is treated as `BUTTON_EVENT_NONE`. -/
def buttonEventOf : Nat → ButtonEvent
  | 1 => .pressed
  | 2 => .released
  | 3 => .held
  | _ => .none

@[simp] theorem btnStateOf_code (state : BtnState) : btnStateOf state.code = some state := by
  cases state <;> rfl

@[simp] theorem buttonEventOf_code (ev : ButtonEvent) : buttonEventOf ev.code = ev := by
  cases ev <;> rfl

section

variable {t : Target} (d : ButtonTimers t) (m : Mem) (btn : Nat)

/-- `btn->debounce_ms` or `btn->hold_time_ms`. -/
def buttonMs (t : Target) (m : Mem) (btn : Nat) (f : Field) : UInt32 :=
  UInt32.ofNat (getField t .button m btn f)

/-- `btn->pin_id`. -/
def buttonPinId (t : Target) (m : Mem) (btn : Nat) : UInt8 :=
  UInt8.ofNat (getField t .button m btn .pinId)

/-- `read_pin_active`. -/
def readPinActiveAt (t : Target) (m : Mem) (btn : Nat) (pin : IoRead) : Bool :=
  let raw := pin.out.getD ioPinLow
  if getField t .button m btn .inverted != 0 then raw == ioPinLow else raw == ioPinHigh

/-- `btn->state = state`. -/
def setState (t : Target) (m : Mem) (btn : Nat) (state : BtnState) : Mem :=
  setField t .button m btn .state state.code

/-- `btn->pending_event = ev`. -/
def setPending (t : Target) (m : Mem) (btn : Nat) (ev : ButtonEvent) : Mem :=
  setField t .button m btn .pendingEvent ev.code

/-- `btn->is_pressed = pressed`. -/
def setPressed (t : Target) (m : Mem) (btn : Nat) (pressed : Bool) : Mem :=
  setField t .button m btn .isPressed pressed.toNat

/-- `simple_timer_setup(&btn->debounce_timer, btn->debounce_ms, false)`, or of the other timer. -/
def setupTimer (k : ButtonTimer) (f : Field) (now : UInt64) : Mem :=
  simpleTimerSetupAt d.timer m (btn + d.offset k) now (buttonMs t m btn f).toUInt64 false

/-- `simple_timer_has_elapsed(&btn->debounce_timer)`, or of the other timer. -/
def pollTimer (k : ButtonTimer) (now : UInt64) : Bool × Mem :=
  simpleTimerHasElapsedAt d.timer m (btn + d.offset k) now

/-- `button_update`. -/
def buttonUpdateAt (env : ButtonEnv) : Mem :=
  if btn = 0 then m
  else
    let active := readPinActiveAt t m btn env.pin
    match btnStateOf (getField t .button m btn .state) with
    | some .idle =>
      if active then
        let m := setupTimer d m btn .debounce .debounceMs env.setupNow
        setState t m btn .debounce
      else m
    | some .debounce =>
      if !active then setState t m btn .idle
      else
        let polled := pollTimer d m btn .debounce env.elapsedNow
        let m := polled.2
        if polled.1 then
          let m := setState t m btn .pressed
          let m := setPressed t m btn true
          let m := setPending t m btn .pressed
          if buttonMs t m btn .holdTimeMs > 0 then
            setupTimer d m btn .hold .holdTimeMs env.setupNow
          else m
        else m
    | some .pressed =>
      if !active then
        let m := setupTimer d m btn .debounce .debounceMs env.setupNow
        setState t m btn .releaseDb
      else if buttonMs t m btn .holdTimeMs > 0 then
        let polled := pollTimer d m btn .hold env.elapsedNow
        let m := polled.2
        if polled.1 then
          let m := setState t m btn .held
          setPending t m btn .held
        else m
      else m
    | some .held =>
      if !active then
        let m := setupTimer d m btn .debounce .debounceMs env.setupNow
        setState t m btn .releaseDb
      else m
    | some .releaseDb =>
      if active then setState t m btn .pressed
      else
        let polled := pollTimer d m btn .debounce env.elapsedNow
        let m := polled.2
        if polled.1 then
          let m := setState t m btn .idle
          let m := setPressed t m btn false
          setPending t m btn .released
        else m
    | none => m

/-- `button_getEvent`. -/
def buttonGetEventAt (t : Target) (m : Mem) (btn : Nat) : ButtonEvent × Mem :=
  if btn = 0 then (.none, m)
  else
    let ev := buttonEventOf (getField t .button m btn .pendingEvent)
    (ev, setPending t m btn .none)

/-- `button_isPressed`. -/
def buttonIsPressedAt (t : Target) (m : Mem) (btn : Nat) : Bool :=
  if btn = 0 then false else getField t .button m btn .isPressed != 0

/-- `button_invertLogic`. -/
def buttonInvertLogicAt (t : Target) (m : Mem) (btn : Nat) : Mem :=
  if btn = 0 then m else setField t .button m btn .inverted 1

/-- `button_displayInfo`. -/
def buttonDisplayInfoAt (t : Target) (m : Mem) (btn : Nat) : List UprintCall :=
  if btn = 0 then []
  else
    [⟨"Device: %s | UUID: %lu | pin_id: %u\r\n",
      [nameArg t .button m btn, uuidArg t .button m btn,
        .unsigned (buttonPinId t m btn).toUInt32]⟩]

end

end FwCore
