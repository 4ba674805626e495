import FwCore.Proof.ButtonEvents
import FwCore.Proof.DeviceHistory

/-!
# What a program that polls its buttons is told

A program owns many devices and calls them in any order. It polls a button when between
two updates of it it takes the event. What it has then been told about that button since
it created it is, in order and with none missing, everything the button has noticed:
presses, each with at most one `HELD` in it, whatever happens to the other devices.
-/

namespace FwCore.Proof

open FwCore Lib

/-- The calls take the event between any two updates; `pending` if there may be one to take. -/
def PolledFrom : Bool → List BspOp → Prop
  | _, [] => True
  | pending, .buttonUpdate _ _ :: ops => pending = false ∧ PolledFrom true ops
  | _, .buttonGetEvent _ :: ops => PolledFrom false ops
  | pending, _ :: ops => PolledFrom pending ops

/-- The events that have been returned, `BUTTON_EVENT_NONE` left out. -/
def reports (answers : List BspAnswer) : List ButtonEvent :=
  answers.filterMap fun a =>
    match a.ret with
    | .event ev => eventOf ev
    | _ => none

/-- The events a button has stored are those it has reported, and the one it has not yet. -/
structure Told (btn : Button) (told : List ButtonEvent) : Prop where
  reachable : ButtonReachable btn
  stored : btn.stored = told ++ (eventOf btn.pendingEvent).toList

section

variable {btn : Button} {told : List ButtonEvent}

theorem told_created (name : Option CStr) (pinId : UInt8) (debounceMs holdTimeMs uuid : UInt32) :
    Told (.created name pinId debounceMs holdTimeMs uuid) [] where
  reachable := .created name pinId debounceMs holdTimeMs uuid
  stored := rfl

/-- With nothing pending, an update loses nothing. -/
theorem Told.update (h : Told btn told) (hnone : btn.pendingEvent = .none) (env : ButtonEnv) :
    Told (buttonUpdate btn env) told where
  reachable := h.reachable.update env
  stored := by
    have hst := h.stored
    rw [hnone] at hst
    rcases update_produced btn env with ⟨_, hstored, hpending⟩ | ⟨ev, hev, _, hstored, hpending⟩
    · rw [hstored, hpending, hnone, hst]
    · rw [hstored, hpending, hev, hst]
      simp [eventOf]

/-- Taking the event reports it. -/
theorem Told.getEvent (h : Told btn told) :
    Told (buttonGetEvent btn).2 (told ++ (eventOf (buttonGetEvent btn).1).toList) where
  reachable := h.reachable.getEvent
  stored := by
    show btn.stored = told ++ (eventOf btn.pendingEvent).toList ++ (eventOf .none).toList
    rw [h.stored]
    simp [eventOf]

theorem Told.invertLogic (h : Told btn told) : Told (buttonInvertLogic btn) told where
  reachable := h.reachable.invertLogic
  stored := h.stored

theorem reports_getEvent (answers : List BspAnswer) :
    reports ((btn.call (.buttonGetEvent 0)).2 :: answers)
      = (eventOf (buttonGetEvent btn).1).toList ++ reports answers := by
  simp only [reports, List.filterMap_cons, Button.call]
  cases eventOf (buttonGetEvent btn).1 <;> rfl

/-- **A polled button reports everything**, from any point on. -/
theorem told_run (pins : Pins) (ops : List BspOp) {p : Bool} (h : Told btn told)
    (hnone : p = false → btn.pendingEvent = .none) (hpolled : PolledFrom p ops) :
    Told (runOwn (aloneCall .button) (btn, pins) ops).1.1
      (told ++ reports (runOwn (aloneCall .button) (btn, pins) ops).2) := by
  induction ops generalizing btn told p with
  | nil =>
      rw [runOwn, reports, List.filterMap_nil, List.append_nil]
      exact h
  | cons op ops ih =>
      cases op with
      | buttonUpdate dev env =>
          refine ih (p := true) (h.update (hnone hpolled.1) env) (fun hf => ?_) hpolled.2
          cases hf
      | buttonGetEvent dev =>
          have htold := ih (p := false) h.getEvent (fun _ => rfl) hpolled
          rwa [List.append_assoc, ← reports_getEvent] at htold
      | buttonInvertLogic dev => exact ih h.invertLogic hnone hpolled
      | _ => exact ih h hnone hpolled

/-- What the stored events of a button look like, and whether it is pressed. -/
theorem stored_presses (h : ButtonReachable btn) :
    (∃ ks : List Bool, btn.stored <+: ks.flatMap press)
      ∧ (btn.isPressed = true ↔ lastPressRelease btn.stored = some .pressed) := by
  obtain ⟨ks, hok⟩ := eventsOk_reachable h
  cases hok.shape with
  | released hs hp hev =>
      rw [RoundsOf, List.append_nil] at hev
      rw [hp, hev]
      exact ⟨⟨ks, List.prefix_refl _⟩, fun hf => absurd hf Bool.false_ne_true,
        fun hl => absurd hl (lastPressRelease_presses ks)⟩
  | pressed reported hs hp hev hlatch =>
      refine ⟨⟨ks ++ [reported], hev.prefix (press_eq reported)⟩, ?_⟩
      rw [hp, hev]
      exact ⟨fun _ => lastPressRelease_begun _ _, fun _ => rfl⟩

end

/-- A button that is polled after every update, with an LED that follows it. -/
def doorbell : List BspOp :=
  [.device (.buttonCreate 8 2 20 0), .device (.ledCreate 8 13),
    .buttonUpdate 0x20000F80 ⟨⟨.ok, some 1⟩, 0, 100⟩, .buttonGetEvent 0x20000F80,
    .buttonUpdate 0x20000F80 ⟨⟨.ok, some 1⟩, 120, 120⟩, .buttonGetEvent 0x20000F80,
    .ledTurnOn 0x200007E0 .ok, .buttonIsPressed 0x20000F80]

theorem doorbell_allowed : AllowedAll (bspCall arm32Timers 65) (BspAllowed arm32)
    (BspWorld.start arm32 (fun _ => 0xAB) (fun _ => 0)) doorbell := by
  decide +kernel

end FwCore.Proof
