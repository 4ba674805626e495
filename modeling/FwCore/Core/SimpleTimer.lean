import Mathlib.Data.Nat.ModEq

/-!
# The software timer (`core/simple-timer.c`)

A timer is a deadline and two flags. It never reads the clock on its own: the
module calls `timebase_get()` once in each of its functions, so every function
here takes that reading as an argument.

A **one-shot** timer latches: the first poll at or past the deadline answers
`true`, sets `hasElapsed`, and every later poll answers `false` until the timer
is set up again. An **auto-reset** timer never latches; a poll at or past the
deadline moves the deadline one period on, measured from the *old deadline* and
not from the poll, so that lateness does not accumulate.

Clock readings and deadlines are `uint64_t` in the source and `UInt64` here, with
the wrap-around that comes with it.
-/

namespace FwCore

/-- `simple_timer_t`. -/
structure SimpleTimer where
  waitTime : UInt64
  targetTime : UInt64
  autoReset : Bool
  hasElapsed : Bool
deriving DecidableEq, Repr

/-- The contents of a timer nobody has set up: static storage is zeroed. -/
def SimpleTimer.zeroed : SimpleTimer := ⟨0, 0, false, false⟩

/-- `simple_timer_setup`, called when `timebase_get()` reads `now`. -/
def simpleTimerSetup (now waitTime : UInt64) (autoReset : Bool) : SimpleTimer where
  waitTime := waitTime
  autoReset := autoReset
  targetTime := now + waitTime
  hasElapsed := false

/-- `simple_timer_has_elapsed`: the answer, and the timer afterwards. -/
def simpleTimerHasElapsed (timer : SimpleTimer) (now : UInt64) : Bool × SimpleTimer :=
  let hasElapsed := decide (timer.targetTime ≤ now)
  if timer.hasElapsed then (false, timer)
  else if hasElapsed then
    if timer.autoReset then
      let drift := now - timer.targetTime
      (hasElapsed, { timer with targetTime := (now + timer.waitTime) - drift })
    else (hasElapsed, { timer with hasElapsed := true })
  else (hasElapsed, timer)

/-- `simple_timer_reset`. -/
def simpleTimerReset (timer : SimpleTimer) (now : UInt64) : SimpleTimer :=
  simpleTimerSetup now timer.waitTime timer.autoReset

/-! ## Runs on one timer -/

/-- A call on a timer, with what `timebase_get()` reads in it. -/
inductive SimpleTimerOp where
  | setup (now waitTime : UInt64) (autoReset : Bool)
  | reset (now : UInt64)
  | poll (now : UInt64)
deriving DecidableEq, Repr

/-- The clock reading of a call. -/
def SimpleTimerOp.now : SimpleTimerOp → UInt64
  | .setup now _ _ => now
  | .reset now => now
  | .poll now => now

/-- The timer after a call. -/
def simpleTimerStep (timer : SimpleTimer) : SimpleTimerOp → SimpleTimer
  | .setup now waitTime autoReset => simpleTimerSetup now waitTime autoReset
  | .reset now => simpleTimerReset timer now
  | .poll now => (simpleTimerHasElapsed timer now).2

/-- The timer after a run of calls. -/
def simpleTimerRun (timer : SimpleTimer) (ops : List SimpleTimerOp) : SimpleTimer :=
  ops.foldl simpleTimerStep timer

/-! ## What a poll can do -/

/-- The drift correction cancels: the reload is the old deadline plus one period. -/
theorem reload_eq (now wait target : UInt64) :
    (now + wait) - (now - target) = target + wait := by grind

theorem hasElapsed_latched {t : SimpleTimer} (now : UInt64) (h : t.hasElapsed = true) :
    simpleTimerHasElapsed t now = (false, t) := by
  rw [simpleTimerHasElapsed, if_pos h]

theorem hasElapsed_early {t : SimpleTimer} {now : UInt64} (h : now < t.targetTime) :
    simpleTimerHasElapsed t now = (false, t) := by
  have hn : ¬t.targetTime ≤ now := UInt64.not_le.mpr h
  simp [simpleTimerHasElapsed, hn]

theorem hasElapsed_oneShot {t : SimpleTimer} {now : UInt64} (hl : t.hasElapsed = false)
    (ha : t.autoReset = false) (h : t.targetTime ≤ now) :
    simpleTimerHasElapsed t now = (true, { t with hasElapsed := true }) := by
  simp [simpleTimerHasElapsed, hl, ha, h]

theorem hasElapsed_autoReset {t : SimpleTimer} {now : UInt64} (hl : t.hasElapsed = false)
    (ha : t.autoReset = true) (h : t.targetTime ≤ now) :
    simpleTimerHasElapsed t now
      = (true, { t with targetTime := t.targetTime + t.waitTime }) := by
  unfold simpleTimerHasElapsed
  simp only [hl, ha, h, if_true, Bool.false_eq_true, if_false, decide_true, reload_eq]

/-! ## A one-shot timer with a deadline -/

/-- A one-shot timer that has not fired and is due at clock value `deadline`. -/
structure SimpleTimer.Armed (t : SimpleTimer) (deadline : Nat) : Prop where
  /-- It is a one-shot timer. -/
  oneShot : t.autoReset = false
  /-- It has not fired since it was set up. -/
  fresh : t.hasElapsed = false
  /-- The deadline, as a number. -/
  due : t.targetTime.toNat = deadline

/-- Setting a one-shot timer up arms it, provided the deadline fits the type. -/
theorem SimpleTimer.armed_setup {now wait : UInt64} (h : now.toNat + wait.toNat < 2 ^ 64) :
    (simpleTimerSetup now wait false).Armed (now.toNat + wait.toNat) where
  oneShot := rfl
  fresh := rfl
  due := by
    show (now + wait).toNat = _
    rw [UInt64.toNat_add, Nat.mod_eq_of_lt h]

/-- Polled before its deadline, an armed timer says no and stays as it is. -/
theorem SimpleTimer.Armed.poll_early {t : SimpleTimer} {d : Nat} {now : UInt64} (h : t.Armed d)
    (hd : now.toNat < d) : simpleTimerHasElapsed t now = (false, t) :=
  hasElapsed_early (UInt64.lt_iff_toNat_lt.mpr (by rw [h.due]; exact hd))

/-- Polled at or past its deadline, an armed timer says yes and latches. -/
theorem SimpleTimer.Armed.poll_due {t : SimpleTimer} {d : Nat} {now : UInt64} (h : t.Armed d)
    (hd : d ≤ now.toNat) :
    simpleTimerHasElapsed t now = (true, { t with hasElapsed := true }) :=
  hasElapsed_oneShot h.fresh h.oneShot (UInt64.le_iff_toNat_le.mpr (by rw [h.due]; exact hd))

end FwCore
