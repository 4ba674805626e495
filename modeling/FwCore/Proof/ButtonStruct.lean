import FwCore.Proof.DeviceEdits

/-!
# The button in memory runs the state machine

`button_update` on a struct does to the record the struct holds what the state machine of
`Button.lean` does, branch by branch. Each branch is a row of assignments, each of them
an edit; the two timers are set up and polled where they are, inside the struct.
-/

namespace FwCore.Proof

open FwCore Lib

section

variable {t : Target} {d : ButtonTimers t} {m : Mem} {dev : Nat} {btn : Button}

/-! ## The timers -/

theorem edits_setupDebounce (h : Holds d .button m dev btn) (now : UInt64) :
    Edits d .button dev m (setupTimer d m dev .debounce .debounceMs now) btn
      { btn with debounceTimer := simpleTimerSetup now btn.debounceMs.toUInt64 false } := by
  rw [setupTimer, buttonMs_debounce h]
  exact edits_debounceTimer btn (setupAt_timer _ _ _ _ _) (setupAt_only _ _ _ _ _)

theorem edits_setupHold (h : Holds d .button m dev btn) (now : UInt64) :
    Edits d .button dev m (setupTimer d m dev .hold .holdTimeMs now) btn
      { btn with holdTimer := simpleTimerSetup now btn.holdTimeMs.toUInt64 false } := by
  rw [setupTimer, buttonMs_hold h]
  exact edits_holdTimer btn (setupAt_timer _ _ _ _ _) (setupAt_only _ _ _ _ _)

theorem pollDebounce_spec (h : Holds d .button m dev btn) (now : UInt64) :
    (pollTimer d m dev .debounce now).1 = (simpleTimerHasElapsed btn.debounceTimer now).1
      ∧ Edits d .button dev m (pollTimer d m dev .debounce now).2 btn
        { btn with debounceTimer := (simpleTimerHasElapsed btn.debounceTimer now).2 } := by
  obtain ⟨hanswer, htimer, honly⟩ := hasElapsedAt_timer (timerAt_debounce h) now
  exact ⟨hanswer, edits_debounceTimer btn htimer honly⟩

theorem pollHold_spec (h : Holds d .button m dev btn) (now : UInt64) :
    (pollTimer d m dev .hold now).1 = (simpleTimerHasElapsed btn.holdTimer now).1
      ∧ Edits d .button dev m (pollTimer d m dev .hold now).2 btn
        { btn with holdTimer := (simpleTimerHasElapsed btn.holdTimer now).2 } := by
  obtain ⟨hanswer, htimer, honly⟩ := hasElapsedAt_timer (timerAt_hold h) now
  exact ⟨hanswer, edits_holdTimer btn htimer honly⟩

/-! ## One branch -/

/-- The press is confirmed: state, flag and event, and the hold timer if there is a hold time. -/
theorem edits_press (h : Holds d .button m dev btn) (now : UInt64) {m' : Mem}
    (hm : m' = setPending t (setPressed t (setState t m dev .pressed) dev true) dev .pressed) :
    Edits d .button dev m
      (if buttonMs t m' dev .holdTimeMs > 0 then setupTimer d m' dev .hold .holdTimeMs now else m')
      btn { btn with
        state := .pressed
        isPressed := true
        pendingEvent := .pressed
        stored := btn.stored ++ [.pressed]
        holdTimer := if btn.holdTimeMs > 0 then
          simpleTimerSetup now btn.holdTimeMs.toUInt64 false else btn.holdTimer } := by
  have h₃ : Edits d .button dev m m' btn { btn with
      state := .pressed, isPressed := true, pendingEvent := .pressed
      stored := btn.stored ++ [.pressed] } := by
    rw [hm]
    exact ((edits_state btn .pressed).trans (edits_pressed _ true)).trans (edits_pending _ _ _)
  have hms := buttonMs_hold (h₃.holds h)
  rw [hms]
  by_cases hh : btn.holdTimeMs > 0
  · rw [if_pos hh, if_pos hh]
    exact h₃.trans (edits_setupHold (h₃.holds h) now)
  · rw [if_neg hh, if_neg hh]
    exact h₃

/-- The release window opens, from `pressed` or `held`. -/
theorem edits_release (h : Holds d .button m dev btn) (now : UInt64) :
    Edits d .button dev m
      (setState t (setupTimer d m dev .debounce .debounceMs now) dev .releaseDb) btn
      { btn with
        debounceTimer := simpleTimerSetup now btn.debounceMs.toUInt64 false
        state := .releaseDb } :=
  (edits_setupDebounce h now).trans (edits_state _ .releaseDb)

/-- **`button_update` on a struct is `button_update` on the record it holds.** -/
theorem buttonUpdateAt_edits (h : Holds d .button m dev btn) (h0 : dev ≠ 0) (env : ButtonEnv) :
    Edits d .button dev m (buttonUpdateAt d m dev env) btn (buttonUpdate btn env) := by
  unfold buttonUpdateAt
  rw [if_neg h0, readPinActiveAt_eq h, btnState_eq h]
  cases hs : btn.state with
  | idle =>
      cases ha : readPinActive btn env.pin with
      | false =>
          rw [update_idle_low env hs ha]
          exact Edits.refl _ _ _ _
      | true =>
          rw [update_idle_high env hs ha]
          exact (edits_setupDebounce h env.setupNow).trans (edits_state _ .debounce)
  | debounce =>
      cases ha : readPinActive btn env.pin with
      | false =>
          rw [update_debounce_low env hs ha]
          exact edits_state btn .idle
      | true =>
          obtain ⟨hanswer, hpoll⟩ := pollDebounce_spec h env.elapsedNow
          dsimp only
          rw [hanswer]
          cases he : (simpleTimerHasElapsed btn.debounceTimer env.elapsedNow).1 with
          | false =>
              rw [update_debounce_wait env hs ha he]
              exact hpoll
          | true =>
              rw [update_debounce_press env hs ha he]
              exact hpoll.trans (edits_press (hpoll.holds h) env.setupNow rfl)
  | pressed =>
      cases ha : readPinActive btn env.pin with
      | false =>
          rw [update_release env (Or.inl hs) ha]
          exact edits_release h env.setupNow
      | true =>
          dsimp only
          rw [buttonMs_hold h]
          by_cases hh : btn.holdTimeMs > 0
          · obtain ⟨hanswer, hpoll⟩ := pollHold_spec h env.elapsedNow
            rw [if_pos hh, hanswer]
            cases he : (simpleTimerHasElapsed btn.holdTimer env.elapsedNow).1 with
            | false =>
                rw [update_pressed_wait env hs ha hh he]
                exact hpoll
            | true =>
                rw [update_pressed_hold env hs ha hh he]
                exact (hpoll.trans (edits_state _ .held)).trans (edits_pending _ _ _)
          · rw [if_neg hh, update_pressed_noHold env hs ha hh]
            exact Edits.refl _ _ _ _
  | held =>
      cases ha : readPinActive btn env.pin with
      | false =>
          rw [update_release env (Or.inr hs) ha]
          exact edits_release h env.setupNow
      | true =>
          rw [update_held_high env hs ha]
          exact Edits.refl _ _ _ _
  | releaseDb =>
      cases ha : readPinActive btn env.pin with
      | true =>
          rw [update_releaseDb_high env hs ha]
          exact edits_state btn .pressed
      | false =>
          obtain ⟨hanswer, hpoll⟩ := pollDebounce_spec h env.elapsedNow
          dsimp only
          rw [hanswer]
          cases he : (simpleTimerHasElapsed btn.debounceTimer env.elapsedNow).1 with
          | false =>
              rw [update_releaseDb_wait env hs ha he]
              exact hpoll
          | true =>
              rw [update_releaseDb_release env hs ha he]
              exact ((hpoll.trans (edits_state _ .idle)).trans (edits_pressed _ false)).trans
                (edits_pending _ _ _)

/-! ## The other functions -/

section

variable (h : Holds d .button m dev btn) (h0 : dev ≠ 0)
include h h0

theorem buttonGetEventAt_spec : (buttonGetEventAt t m dev).1 = (buttonGetEvent btn).1
    ∧ Edits d .button dev m (buttonGetEventAt t m dev).2 btn (buttonGetEvent btn).2 := by
  have hp : getField t .button m dev .pendingEvent = btn.pendingEvent.code := h.field (by decide)
  rw [buttonGetEventAt, if_neg h0, hp, buttonEventOf_code]
  exact ⟨rfl, edits_pending btn .none btn.stored⟩

theorem buttonIsPressedAt_eq : buttonIsPressedAt t m dev = buttonIsPressed btn := by
  rw [buttonIsPressedAt, if_neg h0]
  exact bne_zero (h.field (f := .isPressed) (by decide))

theorem buttonDisplayInfoAt_eq : buttonDisplayInfoAt t m dev = [buttonDisplayInfo btn] := by
  rw [buttonDisplayInfoAt, if_neg h0, h.nameArg, h.uuidArg, buttonPinId_eq h]
  show [UprintCall.mk _ [_, UprintArg.unsigned (UInt32.ofNat btn.uuid.toNat), _]] = _
  rw [uuid32]
  rfl

end

end

end FwCore.Proof
