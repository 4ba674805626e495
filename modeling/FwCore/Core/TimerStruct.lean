import FwCore.Core.SimpleTimer
import FwCore.Lib.Layout

/-!
# A timer in memory (`core/simple-timer.c`)

The functions of the source take a pointer to the timer. Here they are on memory, one
assignment of the source after the other, and it is shown that the timer a pointer
leads to, read as a value, goes the way of `SimpleTimer`.
-/

namespace FwCore

open Lib

/-- The members of `simple_timer_t`. -/
inductive TimerMember where
  | waitTime
  | targetTime
  | autoReset
  | hasElapsed
deriving DecidableEq, Repr

/-- `uint64_t` and `bool`. -/
def TimerMember.width : TimerMember → Nat
  | .waitTime | .targetTime => 8
  | .autoReset | .hasElapsed => 1

/-- The members, in the order of the source. -/
def timerMembers : List TimerMember := [.waitTime, .targetTime, .autoReset, .hasElapsed]

/-- Where a target puts them. -/
structure TimerLayout extends Layout TimerMember where
  members_eq : members = timerMembers
  width_eq : ∀ f, width f = f.width

/-- What a member of a timer is, as a number. -/
def SimpleTimer.value (timer : SimpleTimer) : TimerMember → Nat
  | .waitTime => timer.waitTime.toNat
  | .targetTime => timer.targetTime.toNat
  | .autoReset => timer.autoReset.toNat
  | .hasElapsed => timer.hasElapsed.toNat

section

variable (T : TimerLayout) (m : Mem) (timer : Nat)

/-- `timer->wait_time`. -/
def timerWaitTime : UInt64 := UInt64.ofNat (T.get m timer .waitTime)

/-- `timer->target_time`. -/
def timerTargetTime : UInt64 := UInt64.ofNat (T.get m timer .targetTime)

/-- `timer->auto_reset`. -/
def timerAutoReset : Bool := T.get m timer .autoReset != 0

/-- `timer->has_elapsed`. -/
def timerHasElapsed : Bool := T.get m timer .hasElapsed != 0

/-- `simple_timer_setup`. -/
def simpleTimerSetupAt (now waitTime : UInt64) (autoReset : Bool) : Mem :=
  T.setAll m timer
    [(.waitTime, waitTime.toNat), (.autoReset, autoReset.toNat),
      (.targetTime, (now + waitTime).toNat), (.hasElapsed, 0)]

/-- `simple_timer_has_elapsed`. -/
def simpleTimerHasElapsedAt (now : UInt64) : Bool × Mem :=
  let hasElapsed := decide (timerTargetTime T m timer ≤ now)
  if timerHasElapsed T m timer then (false, m)
  else if hasElapsed then
    if timerAutoReset T m timer then
      let drift := now - timerTargetTime T m timer
      (hasElapsed, T.set m timer .targetTime ((now + timerWaitTime T m timer) - drift).toNat)
    else (hasElapsed, T.set m timer .hasElapsed 1)
  else (hasElapsed, m)

/-- `simple_timer_reset`. -/
def simpleTimerResetAt (now : UInt64) : Mem :=
  simpleTimerSetupAt T m timer now (timerWaitTime T m timer) (timerAutoReset T m timer)

end

/-- The timer at `p` has these values. -/
def TimerAt (T : TimerLayout) (m : Mem) (p : Nat) (timer : SimpleTimer) : Prop :=
  ∀ f, T.get m p f = timer.value f

variable {T : TimerLayout} {m : Mem} {p : Nat} {timer : SimpleTimer}

theorem TimerLayout.mem (T : TimerLayout) (f : TimerMember) : f ∈ T.members := by
  rw [T.members_eq]
  cases f <;> decide

/-- Every value fits its member. -/
theorem SimpleTimer.value_lt (timer : SimpleTimer) (f : TimerMember) :
    timer.value f < 256 ^ f.width := by
  cases f with
  | waitTime => exact timer.waitTime.toNat_lt
  | targetTime => exact timer.targetTime.toNat_lt
  | autoReset => exact Nat.lt_of_le_of_lt (Bool.toNat_le _) (by decide)
  | hasElapsed => exact Nat.lt_of_le_of_lt (Bool.toNat_le _) (by decide)

theorem TimerLayout.value_lt (T : TimerLayout) (timer : SimpleTimer) (f : TimerMember) :
    timer.value f < 256 ^ T.width f := by
  rw [T.width_eq]
  exact timer.value_lt f

/-- One assignment to a timer. -/
theorem TimerAt.set (h : TimerAt T m p timer) {timer' : SimpleTimer} {f : TimerMember} {v : Nat}
    (hv : v = timer'.value f) (hrest : ∀ g, g ≠ f → timer'.value g = timer.value g) :
    TimerAt T (T.set m p f v) p timer' := by
  intro g
  by_cases hg : g = f
  · subst hg
    rw [hv]
    exact Layout.get_set_self (T.value_lt timer' g)
  · rw [Layout.get_set_of_ne (T.mem f) (T.mem g) hg, h g, hrest g hg]

/-- **A timer set up in memory is a timer set up.** -/
theorem setupAt_timer (m : Mem) (p : Nat) (now waitTime : UInt64) (autoReset : Bool) :
    TimerAt T (simpleTimerSetupAt T m p now waitTime autoReset) p
      (simpleTimerSetup now waitTime autoReset) := by
  intro f
  refine Layout.get_setAll_of_mem (T.mem f) (T.value_lt _ f)
    (fun g _ => T.mem g) (by simp) ?_
  cases f with
  | waitTime => simp [SimpleTimer.value, simpleTimerSetup]
  | targetTime => simp [SimpleTimer.value, simpleTimerSetup]
  | autoReset => simp [SimpleTimer.value, simpleTimerSetup]
  | hasElapsed => simp [SimpleTimer.value, simpleTimerSetup]

theorem setupAt_only (m : Mem) (p : Nat) (now waitTime : UInt64) (autoReset : Bool) :
    T.Only p timerMembers m (simpleTimerSetupAt T m p now waitTime autoReset) :=
  (Layout.setAll_only m p _).mono (by simp [timerMembers])

section

variable (h : TimerAt T m p timer)
include h

theorem timerAt_waitTime : timerWaitTime T m p = timer.waitTime := by
  rw [timerWaitTime, h .waitTime]
  exact UInt64.ofNat_toNat

theorem timerAt_targetTime : timerTargetTime T m p = timer.targetTime := by
  rw [timerTargetTime, h .targetTime]
  exact UInt64.ofNat_toNat

theorem timerAt_autoReset : timerAutoReset T m p = timer.autoReset := by
  rw [timerAutoReset, h .autoReset]
  cases ha : timer.autoReset <;> simp [SimpleTimer.value, ha]

theorem timerAt_hasElapsed : timerHasElapsed T m p = timer.hasElapsed := by
  rw [timerHasElapsed, h .hasElapsed]
  cases he : timer.hasElapsed <;> simp [SimpleTimer.value, he]

/-- **A timer polled in memory is a timer polled.** -/
theorem hasElapsedAt_timer (now : UInt64) :
    (simpleTimerHasElapsedAt T m p now).1 = (simpleTimerHasElapsed timer now).1
      ∧ TimerAt T (simpleTimerHasElapsedAt T m p now).2 p (simpleTimerHasElapsed timer now).2
      ∧ T.Only p timerMembers m (simpleTimerHasElapsedAt T m p now).2 := by
  unfold simpleTimerHasElapsedAt simpleTimerHasElapsed
  dsimp only
  rw [timerAt_hasElapsed h, timerAt_targetTime h, timerAt_autoReset h, timerAt_waitTime h]
  by_cases hlatched : timer.hasElapsed = true
  · rw [if_pos hlatched, if_pos hlatched]
    exact ⟨rfl, h, Layout.Only.refl _ _ _⟩
  · rw [if_neg hlatched, if_neg hlatched]
    by_cases hdue : timer.targetTime ≤ now
    · have hd : decide (timer.targetTime ≤ now) = true := decide_eq_true hdue
      rw [if_pos hd, if_pos hd]
      by_cases hauto : timer.autoReset = true
      · -- an auto-reset timer moves its deadline on
        rw [if_pos hauto, if_pos hauto]
        refine ⟨rfl, h.set rfl (fun g hg => ?_), (Layout.set_only _ _ _ _).mono (by decide)⟩
        cases g <;> simp_all [SimpleTimer.value]
      · -- a one-shot timer latches
        rw [if_neg hauto, if_neg hauto]
        refine ⟨rfl, h.set rfl (fun g hg => ?_), (Layout.set_only _ _ _ _).mono (by decide)⟩
        cases g <;> simp_all [SimpleTimer.value]
    · have hd : ¬decide (timer.targetTime ≤ now) = true := by simpa using hdue
      rw [if_neg hd, if_neg hd]
      exact ⟨rfl, h, Layout.Only.refl _ _ _⟩

end

end FwCore
