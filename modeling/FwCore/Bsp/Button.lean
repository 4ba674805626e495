import FwCore.Core.SimpleTimer
import FwCore.Core.Uprint
import FwCore.Interface

/-!
# The button state machine (`bsp/button.c`)

`button_update` samples the pin once and moves a five-state machine. Two one-shot
timers drive it: `debounce_timer`, set up when the level is first seen to change
and shared by presses and releases, and `hold_timer`, set up when a press is
confirmed. A confirmed transition stores an event in `pending_event`, a one-place
mailbox which `button_getEvent` empties.

`Button.stored` is a ghost: the events `button_update` has stored, oldest first.
No function reads it.

Pointers here are the non-`NULL` ones; every function of the source returns at
once on `NULL`.
-/

namespace FwCore

/-- `btn_state_e`. -/
inductive BtnState where
  | idle
  | debounce
  | pressed
  | held
  | releaseDb
deriving DecidableEq, Repr

/-- `button_event_e`. -/
inductive ButtonEvent where
  | none
  | pressed
  | released
  | held
deriving DecidableEq, Repr

/-- `struct button_t`, less its list node. -/
structure Button where
  name : Option CStr
  pinId : UInt8
  uuid : UInt32
  inverted : Bool
  debounceMs : UInt32
  holdTimeMs : UInt32
  state : BtnState
  debounceTimer : SimpleTimer
  holdTimer : SimpleTimer
  pendingEvent : ButtonEvent
  isPressed : Bool
  /-- Ghost: every event stored so far. -/
  stored : List ButtonEvent
deriving DecidableEq, Repr

/-- The fields `button_create` and `button_createWithUuid` set in a zeroed block. -/
def Button.created (name : Option CStr) (pinId : UInt8) (debounceMs holdTimeMs uuid : UInt32) :
    Button where
  name := name
  pinId := pinId
  uuid := uuid
  inverted := false
  debounceMs := debounceMs
  holdTimeMs := holdTimeMs
  state := .idle
  debounceTimer := .zeroed
  holdTimer := .zeroed
  pendingEvent := .none
  isPressed := false
  stored := []

/-- What one `button_update` gets from the board: the pin, and up to two clock readings. -/
structure ButtonEnv where
  pin : IoRead
  /-- `timebase_get()` inside `simple_timer_has_elapsed`. -/
  elapsedNow : UInt64
  /-- `timebase_get()` inside `simple_timer_setup`, read after the other one. -/
  setupNow : UInt64

/-- `read_pin_active`: the status of the read is not looked at. -/
def readPinActive (btn : Button) (pin : IoRead) : Bool :=
  let raw := pin.out.getD ioPinLow
  if btn.inverted then raw == ioPinLow else raw == ioPinHigh

/-- The assignment `btn->pending_event = ev` of `button_update`. -/
def Button.store (btn : Button) (ev : ButtonEvent) : Button :=
  { btn with pendingEvent := ev, stored := btn.stored ++ [ev] }

/-- `button_update`. -/
def buttonUpdate (btn : Button) (env : ButtonEnv) : Button :=
  let active := readPinActive btn env.pin
  match btn.state with
  | .idle =>
    if active then
      { btn with
        debounceTimer := simpleTimerSetup env.setupNow btn.debounceMs.toUInt64 false
        state := .debounce }
    else btn
  | .debounce =>
    if !active then { btn with state := .idle }
    else
      let polled := simpleTimerHasElapsed btn.debounceTimer env.elapsedNow
      let btn := { btn with debounceTimer := polled.2 }
      if polled.1 then
        let btn := { btn with state := .pressed, isPressed := true }.store .pressed
        if btn.holdTimeMs > 0 then
          { btn with holdTimer := simpleTimerSetup env.setupNow btn.holdTimeMs.toUInt64 false }
        else btn
      else btn
  | .pressed =>
    if !active then
      { btn with
        debounceTimer := simpleTimerSetup env.setupNow btn.debounceMs.toUInt64 false
        state := .releaseDb }
    else if btn.holdTimeMs > 0 then
      let polled := simpleTimerHasElapsed btn.holdTimer env.elapsedNow
      let btn := { btn with holdTimer := polled.2 }
      if polled.1 then { btn with state := .held }.store .held else btn
    else btn
  | .held =>
    if !active then
      { btn with
        debounceTimer := simpleTimerSetup env.setupNow btn.debounceMs.toUInt64 false
        state := .releaseDb }
    else btn
  | .releaseDb =>
    if active then { btn with state := .pressed }
    else
      let polled := simpleTimerHasElapsed btn.debounceTimer env.elapsedNow
      let btn := { btn with debounceTimer := polled.2 }
      if polled.1 then { btn with state := .idle, isPressed := false }.store .released else btn

/-- `button_getEvent`: the event, and the button afterwards. -/
def buttonGetEvent (btn : Button) : ButtonEvent × Button :=
  (btn.pendingEvent, { btn with pendingEvent := .none })

/-- `button_isPressed`. -/
def buttonIsPressed (btn : Button) : Bool := btn.isPressed

/-- `button_invertLogic`. -/
def buttonInvertLogic (btn : Button) : Button := { btn with inverted := true }

/-- `button_displayInfo`. -/
def buttonDisplayInfo (btn : Button) : UprintCall :=
  ⟨"Device: %s | UUID: %lu | pin_id: %u\r\n",
    [.str btn.name, .unsigned btn.uuid, .unsigned btn.pinId.toUInt32]⟩

/-- The buttons a program can hold: created, then updated, polled and inverted in any order. -/
inductive ButtonReachable : Button → Prop where
  | created (name : Option CStr) (pinId : UInt8) (debounceMs holdTimeMs uuid : UInt32) :
      ButtonReachable (.created name pinId debounceMs holdTimeMs uuid)
  | update {btn : Button} (env : ButtonEnv) :
      ButtonReachable btn → ButtonReachable (buttonUpdate btn env)
  | getEvent {btn : Button} : ButtonReachable btn → ButtonReachable (buttonGetEvent btn).2
  | invertLogic {btn : Button} : ButtonReachable btn → ButtonReachable (buttonInvertLogic btn)

/-- What is stored on the way from `btn` to `btn'`, one event at most, is left pending. -/
def LeftPending (btn btn' : Button) : Prop :=
  (btn'.stored = btn.stored ∧ btn'.pendingEvent = btn.pendingEvent)
    ∨ ∃ ev, ev ≠ .none ∧ btn'.stored = btn.stored ++ [ev] ∧ btn'.pendingEvent = ev

/-! ## One lemma per branch -/

section Branches

variable {btn : Button} (env : ButtonEnv)

theorem update_idle_low (hs : btn.state = .idle) (ha : readPinActive btn env.pin = false) :
    buttonUpdate btn env = btn := by
  simp [buttonUpdate, hs, ha]

theorem update_idle_high (hs : btn.state = .idle) (ha : readPinActive btn env.pin = true) :
    buttonUpdate btn env = { btn with
      debounceTimer := simpleTimerSetup env.setupNow btn.debounceMs.toUInt64 false
      state := .debounce } := by
  simp [buttonUpdate, hs, ha]

theorem update_debounce_low (hs : btn.state = .debounce) (ha : readPinActive btn env.pin = false) :
    buttonUpdate btn env = { btn with state := .idle } := by
  simp [buttonUpdate, hs, ha]

/-- The debounce window is still open. -/
theorem update_debounce_wait (hs : btn.state = .debounce) (ha : readPinActive btn env.pin = true)
    (he : (simpleTimerHasElapsed btn.debounceTimer env.elapsedNow).1 = false) :
    buttonUpdate btn env = { btn with
      debounceTimer := (simpleTimerHasElapsed btn.debounceTimer env.elapsedNow).2 } := by
  simp [buttonUpdate, hs, ha, he]

/-- The press is confirmed; the hold timer is set up only if there is a hold time. -/
theorem update_debounce_press (hs : btn.state = .debounce) (ha : readPinActive btn env.pin = true)
    (he : (simpleTimerHasElapsed btn.debounceTimer env.elapsedNow).1 = true) :
    buttonUpdate btn env = { btn with
      debounceTimer := (simpleTimerHasElapsed btn.debounceTimer env.elapsedNow).2
      state := .pressed
      isPressed := true
      pendingEvent := .pressed
      stored := btn.stored ++ [.pressed]
      holdTimer :=
        if btn.holdTimeMs > 0 then
          simpleTimerSetup env.setupNow btn.holdTimeMs.toUInt64 false
        else btn.holdTimer } := by
  by_cases hh : btn.holdTimeMs > 0
  · simp [buttonUpdate, Button.store, hs, ha, he, hh]
  · simp [buttonUpdate, Button.store, hs, ha, he, hh]

/-- From `pressed` and from `held`, an inactive sample opens the release window. -/
theorem update_release (hs : btn.state = .pressed ∨ btn.state = .held)
    (ha : readPinActive btn env.pin = false) :
    buttonUpdate btn env = { btn with
      debounceTimer := simpleTimerSetup env.setupNow btn.debounceMs.toUInt64 false
      state := .releaseDb } := by
  rcases hs with hs | hs
  · simp [buttonUpdate, hs, ha]
  · simp [buttonUpdate, hs, ha]

theorem update_pressed_noHold (hs : btn.state = .pressed) (ha : readPinActive btn env.pin = true)
    (hh : ¬btn.holdTimeMs > 0) : buttonUpdate btn env = btn := by
  simp [buttonUpdate, hs, ha, hh]

theorem update_pressed_wait (hs : btn.state = .pressed) (ha : readPinActive btn env.pin = true)
    (hh : btn.holdTimeMs > 0)
    (he : (simpleTimerHasElapsed btn.holdTimer env.elapsedNow).1 = false) :
    buttonUpdate btn env = { btn with
      holdTimer := (simpleTimerHasElapsed btn.holdTimer env.elapsedNow).2 } := by
  simp [buttonUpdate, hs, ha, hh, he]

theorem update_pressed_hold (hs : btn.state = .pressed) (ha : readPinActive btn env.pin = true)
    (hh : btn.holdTimeMs > 0)
    (he : (simpleTimerHasElapsed btn.holdTimer env.elapsedNow).1 = true) :
    buttonUpdate btn env = { btn with
      holdTimer := (simpleTimerHasElapsed btn.holdTimer env.elapsedNow).2
      state := .held
      pendingEvent := .held
      stored := btn.stored ++ [.held] } := by
  simp [buttonUpdate, Button.store, hs, ha, hh, he]

theorem update_held_high (hs : btn.state = .held) (ha : readPinActive btn env.pin = true) :
    buttonUpdate btn env = btn := by
  simp [buttonUpdate, hs, ha]

/-- A glitch on release: back to `pressed`, whether or not the hold was reported. -/
theorem update_releaseDb_high (hs : btn.state = .releaseDb)
    (ha : readPinActive btn env.pin = true) :
    buttonUpdate btn env = { btn with state := .pressed } := by
  simp [buttonUpdate, hs, ha]

theorem update_releaseDb_wait (hs : btn.state = .releaseDb)
    (ha : readPinActive btn env.pin = false)
    (he : (simpleTimerHasElapsed btn.debounceTimer env.elapsedNow).1 = false) :
    buttonUpdate btn env = { btn with
      debounceTimer := (simpleTimerHasElapsed btn.debounceTimer env.elapsedNow).2 } := by
  simp [buttonUpdate, hs, ha, he]

/-- The release is confirmed. -/
theorem update_releaseDb_release (hs : btn.state = .releaseDb)
    (ha : readPinActive btn env.pin = false)
    (he : (simpleTimerHasElapsed btn.debounceTimer env.elapsedNow).1 = true) :
    buttonUpdate btn env = { btn with
      debounceTimer := (simpleTimerHasElapsed btn.debounceTimer env.elapsedNow).2
      state := .idle
      isPressed := false
      pendingEvent := .released
      stored := btn.stored ++ [.released] } := by
  simp [buttonUpdate, Button.store, hs, ha, he]

/-- An update never touches the configuration. -/
theorem update_config (btn : Button) (env : ButtonEnv) :
    (buttonUpdate btn env).inverted = btn.inverted
      ∧ (buttonUpdate btn env).debounceMs = btn.debounceMs
      ∧ (buttonUpdate btn env).holdTimeMs = btn.holdTimeMs := by
  unfold buttonUpdate Button.store
  dsimp only
  repeat' split
  all_goals exact ⟨rfl, rfl, rfl⟩

/-- **An update stores nothing and leaves `pending_event` alone, or puts what it stores there.** -/
theorem update_leftPending (btn : Button) (env : ButtonEnv) :
    LeftPending btn (buttonUpdate btn env) := by
  unfold LeftPending buttonUpdate Button.store
  dsimp only
  repeat' split
  all_goals first
    | exact Or.inl ⟨rfl, rfl⟩
    | exact Or.inr ⟨_, ButtonEvent.noConfusion, rfl, rfl⟩

end Branches

end FwCore
