import FwCore.Bsp.Button

/-!
# What a failed pin read does to a button

`read_pin_active` starts from a low level and does not look at the status of
`IO_read`. A read that fails is therefore a low sample: inactive for a button as it
is created, *active* for an inverted one. Such a sample can only confirm what it
agrees with, and only when the window it confirms is over: a release, or for an
inverted button a press or a hold. `Misfires` is that list, and
`failedReads_silent_iff` says that failed reads are without effect exactly in the
runs that keep clear of it.
-/

namespace FwCore.Proof

open FwCore

/-- `IO_read` fails and leaves its output alone. -/
def FailedRead (pin : IoRead) : Prop := pin.status ≠ .ok ∧ pin.out = none

/-- The update emits no event and does not change `button_isPressed`. -/
structure SilentUpdate (btn : Button) (env : ButtonEnv) : Prop where
  noEvent : (buttonUpdate btn env).stored = btn.stored
  sameLevel : buttonIsPressed (buttonUpdate btn env) = buttonIsPressed btn

/-- The button after a run of updates. -/
def buttonUpdates (btn : Button) (envs : List ButtonEnv) : Button := envs.foldl buttonUpdate btn

/-- Failed reads cause nothing: at each of them, and over any run of them. -/
structure FailuresSilent (btn : Button) (envs : List ButtonEnv) : Prop where
  /-- An update whose read fails is silent. -/
  each : ∀ pre env post, envs = pre ++ env :: post → FailedRead env.pin →
    SilentUpdate (buttonUpdates btn pre) env
  /-- If every read fails there is no event. -/
  always : (∀ env ∈ envs, FailedRead env.pin) → (buttonUpdates btn envs).stored = btn.stored

/-- A timer that has not latched and whose deadline is not ahead of `now`. -/
def TimerDue (t : SimpleTimer) (now : UInt64) : Prop :=
  t.hasElapsed = false ∧ t.targetTime ≤ now

/-- A low sample confirms something in this state. -/
def Misfires (btn : Button) (now : UInt64) : Prop :=
  match btn.state with
  | .idle => False
  | .debounce => btn.inverted = true ∧ TimerDue btn.debounceTimer now
  | .pressed => btn.inverted = true ∧ 0 < btn.holdTimeMs ∧ TimerDue btn.holdTimer now
  | .held => False
  | .releaseDb => btn.inverted = false ∧ TimerDue btn.debounceTimer now

/-- No read fails where a low sample would confirm something. -/
def FailuresHarmless (btn : Button) (envs : List ButtonEnv) : Prop :=
  ∀ pre env post, envs = pre ++ env :: post → FailedRead env.pin →
    ¬Misfires (buttonUpdates btn pre) env.elapsedNow

/-- A poll answers exactly when the timer is due. -/
theorem hasElapsed_iff_due (t : SimpleTimer) (now : UInt64) :
    (simpleTimerHasElapsed t now).1 = true ↔ TimerDue t now := by
  unfold TimerDue
  cases hl : t.hasElapsed with
  | true =>
      rw [hasElapsed_latched now hl]
      simp
  | false =>
      rcases UInt64.lt_or_le now t.targetTime with hlt | hle
      · rw [hasElapsed_early hlt]
        refine ⟨fun h => absurd h (by simp), fun h => ?_⟩
        exact absurd h.2 (UInt64.not_le.mpr hlt)
      · refine ⟨fun _ => ⟨rfl, hle⟩, fun _ => ?_⟩
        cases ha : t.autoReset with
        | true => rw [hasElapsed_autoReset hl ha hle]
        | false => rw [hasElapsed_oneShot hl ha hle]

/-- A failed read is a low sample, turned round by the inverted flag. -/
theorem failedRead_active (btn : Button) {pin : IoRead} (h : FailedRead pin) :
    readPinActive btn pin = btn.inverted := by
  unfold readPinActive
  rw [h.2]
  cases btn.inverted with
  | true => rfl
  | false => rfl

theorem not_append_self {α : Type} {l : List α} {a : α} : ¬l ++ [a] = l := by simp

/-! ## One update -/

/-- Nothing is confirmed: the update is silent, whatever else it moves. -/
theorem silent_of_eq {btn b : Button} {env : ButtonEnv} (h : buttonUpdate btn env = b)
    (hs : b.stored = btn.stored) (hp : b.isPressed = btn.isPressed) : SilentUpdate btn env :=
  ⟨by rw [h, hs], by rw [h]; exact hp⟩

/-- An event is stored: the update is not silent. -/
theorem not_silent_of_eq {btn b : Button} {env : ButtonEnv} {ev : ButtonEvent}
    (h : buttonUpdate btn env = b) (hs : b.stored = btn.stored ++ [ev]) :
    ¬SilentUpdate btn env := by
  intro hsilent
  have hno := hsilent.noEvent
  rw [h, hs] at hno
  exact not_append_self hno

/-- **An update whose read fails is silent exactly when a low sample confirms nothing.** -/
theorem failedRead_silent_iff {btn : Button} {env : ButtonEnv} (h : FailedRead env.pin) :
    SilentUpdate btn env ↔ ¬Misfires btn env.elapsedNow := by
  have hact := failedRead_active btn h
  unfold Misfires
  cases hs : btn.state with
  | idle =>
      refine iff_of_true ?_ (fun hf => hf)
      cases hi : btn.inverted with
      | false => exact silent_of_eq (update_idle_low env hs (hact.trans hi)) rfl rfl
      | true => exact silent_of_eq (update_idle_high env hs (hact.trans hi)) rfl rfl
  | debounce =>
      dsimp only
      cases hi : btn.inverted with
      | false =>
          exact iff_of_true (silent_of_eq (update_debounce_low env hs (hact.trans hi)) rfl rfl)
            (by simp)
      | true =>
          rw [← hasElapsed_iff_due]
          cases he : (simpleTimerHasElapsed btn.debounceTimer env.elapsedNow).1 with
          | false =>
              exact iff_of_true
                (silent_of_eq (update_debounce_wait env hs (hact.trans hi) he) rfl rfl) (by simp)
          | true =>
              exact iff_of_false
                (not_silent_of_eq (update_debounce_press env hs (hact.trans hi) he) rfl) (by simp)
  | pressed =>
      dsimp only
      cases hi : btn.inverted with
      | false =>
          exact iff_of_true (silent_of_eq (update_release env (Or.inl hs) (hact.trans hi)) rfl rfl)
            (by simp)
      | true =>
          rw [← hasElapsed_iff_due]
          by_cases hh : btn.holdTimeMs > 0
          · cases he : (simpleTimerHasElapsed btn.holdTimer env.elapsedNow).1 with
            | false =>
                exact iff_of_true
                  (silent_of_eq (update_pressed_wait env hs (hact.trans hi) hh he) rfl rfl)
                  (by simp)
            | true =>
                exact iff_of_false
                  (not_silent_of_eq (update_pressed_hold env hs (hact.trans hi) hh he) rfl)
                  (fun hn => hn ⟨rfl, hh, rfl⟩)
          · exact iff_of_true
              (silent_of_eq (update_pressed_noHold env hs (hact.trans hi) hh) rfl rfl)
              (fun hm => hh hm.2.1)
  | held =>
      refine iff_of_true ?_ (fun hf => hf)
      cases hi : btn.inverted with
      | false => exact silent_of_eq (update_release env (Or.inr hs) (hact.trans hi)) rfl rfl
      | true => exact silent_of_eq (update_held_high env hs (hact.trans hi)) rfl rfl
  | releaseDb =>
      dsimp only
      cases hi : btn.inverted with
      | true =>
          exact iff_of_true (silent_of_eq (update_releaseDb_high env hs (hact.trans hi)) rfl rfl)
            (by simp)
      | false =>
          rw [← hasElapsed_iff_due]
          cases he : (simpleTimerHasElapsed btn.debounceTimer env.elapsedNow).1 with
          | false =>
              exact iff_of_true
                (silent_of_eq (update_releaseDb_wait env hs (hact.trans hi) he) rfl rfl) (by simp)
          | true =>
              exact iff_of_false
                (not_silent_of_eq (update_releaseDb_release env hs (hact.trans hi) he) rfl)
                (by simp)

/-! ## Runs -/

/-- A run of silent updates stores nothing. -/
theorem buttonUpdates_silent :
    ∀ (btn : Button) (envs : List ButtonEnv),
      (∀ pre env post, envs = pre ++ env :: post → SilentUpdate (buttonUpdates btn pre) env) →
        (buttonUpdates btn envs).stored = btn.stored
  | btn, [], _ => rfl
  | btn, env :: envs, h => by
      have hfirst := h [] env envs rfl
      have hrest := buttonUpdates_silent (buttonUpdate btn env) envs fun pre env' post hsplit =>
        h (env :: pre) env' post (by rw [hsplit]; rfl)
      exact hrest.trans hfirst.noEvent

/--
**Failed reads cause no event exactly when none falls where a low sample confirms something.**

Over any run of updates, from any state of any button.
-/
theorem failedReads_silent_iff (btn : Button) (envs : List ButtonEnv) :
    FailuresSilent btn envs ↔ FailuresHarmless btn envs := by
  constructor
  · intro h pre env post hsplit hf
    exact (failedRead_silent_iff hf).mp (h.each pre env post hsplit hf)
  · intro h
    have heach : ∀ pre env post, envs = pre ++ env :: post → FailedRead env.pin →
        SilentUpdate (buttonUpdates btn pre) env :=
      fun pre env post hsplit hf => (failedRead_silent_iff hf).mpr (h pre env post hsplit hf)
    refine ⟨heach, fun hall => buttonUpdates_silent btn envs fun pre env post hsplit => ?_⟩
    exact heach pre env post hsplit (hall env (by rw [hsplit]; simp))

/-- A pin that cannot be read, for as long as the debounce window. -/
def deadPin : List ButtonEnv :=
  [⟨⟨.errHwFault, none⟩, 0, 0⟩, ⟨⟨.errHwFault, none⟩, 20, 20⟩]

/-- An inverted button on it reports a press that nobody made. -/
theorem deadPin_presses :
    (buttonUpdates (buttonInvertLogic (.created none 3 20 0 7)) deadPin).stored = [.pressed]
      ∧ ¬FailuresSilent (buttonInvertLogic (.created none 3 20 0 7)) deadPin := by
  refine ⟨by decide, fun h => ?_⟩
  have hnone := h.always (by unfold FailedRead; decide)
  exact absurd hnone (by decide)

end FwCore.Proof
