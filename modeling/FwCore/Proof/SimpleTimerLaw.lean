import Mathlib.Data.List.Infix
import FwCore.Core.SimpleTimer

/-!
# When a timer may answer

A timer is armed by `simple_timer_setup` or `simple_timer_reset`, at some clock
value and for some number of ticks. What its polls owe the caller is said from
those two numbers: no poll answers `true` before the ticks have passed, and a
one-shot timer answers `true` at the first poll after that and at no other.

The deadline is a 64-bit sum. Where it fits, the law holds whatever is done in
between. Where it wraps it lies *behind* the clock, so the very next poll answers
at once; a timer that is armed again before it is polled does no harm. Hence the
condition, `ArmingsFit`, and `simpleTimer_law_iff`: on a clock that does not go
back, the law holds of a run exactly when the run meets it.
-/

namespace FwCore.Proof

open FwCore

/-! ## The law -/

/-- What arms a timer: the clock, the ticks to wait, and the mode. -/
structure Arming where
  clock : UInt64
  waitTime : UInt64
  autoReset : Bool
deriving DecidableEq, Repr

/-- The clock value the timer is meant to wait for, as a number. -/
def Arming.due (a : Arming) : Nat := a.clock.toNat + a.waitTime.toNat

/-- How a call arms the timer it is made on, if it does. -/
def arming (timer : SimpleTimer) : SimpleTimerOp → Option Arming
  | .setup now waitTime autoReset => some ⟨now, waitTime, autoReset⟩
  | .reset now => some ⟨now, timer.waitTime, timer.autoReset⟩
  | .poll _ => none

/-- The run holds a poll at `now` that was last armed by `a`; since then it was polled at `polls`,
and it has become `timer`. -/
def PolledSince (t : SimpleTimer) (ops : List SimpleTimerOp) (a : Arming) (polls : List UInt64)
    (now : UInt64) (timer : SimpleTimer) : Prop :=
  ∃ pre op post,
    ops = pre ++ op :: (polls.map .poll ++ .poll now :: post)
      ∧ arming (simpleTimerRun t pre) op = some a
      ∧ timer = simpleTimerRun t (pre ++ op :: polls.map .poll)

/-- What the polls of a run owe the caller. -/
structure SimpleTimerLaw (t : SimpleTimer) (ops : List SimpleTimerOp) : Prop where
  /-- No poll answers before the ticks have passed. -/
  notEarly : ∀ a polls now timer, PolledSince t ops a polls now timer →
    (simpleTimerHasElapsed timer now).1 = true → a.due ≤ now.toNat
  /-- A one-shot timer answers at the first poll after that, and at no other. -/
  once : ∀ a polls now timer, PolledSince t ops a polls now timer → a.autoReset = false →
    ((simpleTimerHasElapsed timer now).1 = true
      ↔ a.due ≤ now.toNat ∧ ∀ p ∈ polls, p.toNat < a.due)

/-- The clock does not go back during the run. -/
def ClockSteady (ops : List SimpleTimerOp) : Prop :=
  ops.Pairwise fun op op' => op.now.toNat ≤ op'.now.toNat

/-- Every arming that is polled at all has a deadline that fits the clock's type. -/
def ArmingsFit (t : SimpleTimer) (ops : List SimpleTimerOp) : Prop :=
  ∀ pre op now post a, ops = pre ++ op :: .poll now :: post →
    arming (simpleTimerRun t pre) op = some a → a.due < 2 ^ 64

/-! ## From an arming to its polls -/

theorem simpleTimerRun_append (t : SimpleTimer) (xs ys : List SimpleTimerOp) :
    simpleTimerRun t (xs ++ ys) = simpleTimerRun (simpleTimerRun t xs) ys := List.foldl_append

theorem simpleTimerRun_cons (t : SimpleTimer) (op : SimpleTimerOp) (ops : List SimpleTimerOp) :
    simpleTimerRun t (op :: ops) = simpleTimerRun (simpleTimerStep t op) ops := rfl

/-- Arming is setting up. -/
theorem step_arming {t : SimpleTimer} {op : SimpleTimerOp} {a : Arming}
    (h : arming t op = some a) :
    op.now = a.clock ∧ simpleTimerStep t op = simpleTimerSetup a.clock a.waitTime a.autoReset := by
  cases op with
  | setup now wait auto =>
      obtain rfl := Option.some.inj h
      exact ⟨rfl, rfl⟩
  | reset now =>
      obtain rfl := Option.some.inj h
      exact ⟨rfl, rfl⟩
  | poll now => exact absurd h (by simp [arming])

/-- A latched timer stays latched, however often it is polled. -/
theorem polls_latched {t : SimpleTimer} (h : t.hasElapsed = true) :
    ∀ polls : List UInt64, simpleTimerRun t (polls.map .poll) = t
  | [] => rfl
  | p :: polls => by
      rw [List.map_cons, simpleTimerRun_cons, simpleTimerStep, hasElapsed_latched p h]
      exact polls_latched h polls

/-- **Either no poll has reached the deadline and the timer is as it was set up, or one has, and
a one-shot timer is latched.** -/
theorem polls_spec {t : SimpleTimer} (hl : t.hasElapsed = false) :
    ∀ polls : List UInt64,
      ((∀ p ∈ polls, p.toNat < t.targetTime.toNat)
          ∧ simpleTimerRun t (polls.map .poll) = t)
        ∨ ((∃ p ∈ polls, t.targetTime.toNat ≤ p.toNat)
          ∧ (t.autoReset = false → (simpleTimerRun t (polls.map .poll)).hasElapsed = true))
  | [] => Or.inl ⟨by simp, rfl⟩
  | p :: polls => by
      rw [List.map_cons, simpleTimerRun_cons, simpleTimerStep]
      rcases Nat.lt_or_ge p.toNat t.targetTime.toNat with hlt | hge
      · -- an early poll changes nothing
        rw [hasElapsed_early (UInt64.lt_iff_toNat_lt.mpr hlt)]
        rcases polls_spec hl polls with ⟨hearly, hrun⟩ | ⟨⟨q, hq, hdue⟩, hlatch⟩
        · refine Or.inl ⟨fun q hq => ?_, hrun⟩
          rcases List.mem_cons.mp hq with rfl | hq
          · exact hlt
          · exact hearly q hq
        · exact Or.inr ⟨⟨q, List.mem_cons_of_mem p hq, hdue⟩, hlatch⟩
      · refine Or.inr ⟨⟨p, List.mem_cons_self, hge⟩, fun ha => ?_⟩
        rw [hasElapsed_oneShot hl ha (UInt64.le_iff_toNat_le.mpr hge), polls_latched rfl]

/-- The deadline is the sum the source computes. -/
theorem setup_target (a : Arming) :
    (simpleTimerSetup a.clock a.waitTime a.autoReset).targetTime.toNat = a.due % 2 ^ 64 :=
  UInt64.toNat_add a.clock a.waitTime

/-- An arming whose deadline fits: whether the poll at `now` answers. -/
theorem polledSince_answer {t : SimpleTimer} {ops : List SimpleTimerOp} {a : Arming}
    {polls : List UInt64} {now : UInt64} {timer : SimpleTimer} (hc : ClockSteady ops)
    (hfit : ArmingsFit t ops) (h : PolledSince t ops a polls now timer) :
    ((simpleTimerHasElapsed timer now).1 = true → a.due ≤ now.toNat)
      ∧ (a.autoReset = false → ((simpleTimerHasElapsed timer now).1 = true
          ↔ a.due ≤ now.toNat ∧ ∀ p ∈ polls, p.toNat < a.due)) := by
  obtain ⟨pre, op, post, hops, harm, htimer⟩ := h
  -- the arming is polled, be it only at `now`, so its deadline fits
  have hdue : a.due < 2 ^ 64 := by
    cases polls with
    | nil => exact hfit pre op now post a hops harm
    | cons p polls =>
        rw [List.map_cons, List.cons_append] at hops
        exact hfit pre op p _ a hops harm
  obtain ⟨_, hsetup⟩ := step_arming harm
  obtain ⟨s, hs⟩ : ∃ s, s = simpleTimerSetup a.clock a.waitTime a.autoReset := ⟨_, rfl⟩
  have htarget : s.targetTime.toNat = a.due := by
    rw [hs, setup_target, Nat.mod_eq_of_lt hdue]
  have hfresh : s.hasElapsed = false := by rw [hs]; rfl
  have hauto : s.autoReset = a.autoReset := by rw [hs]; rfl
  rw [simpleTimerRun_append, simpleTimerRun_cons, hsetup, ← hs] at htimer
  -- the polls in between come before `now`
  have hmono : ∀ p ∈ polls, p.toNat ≤ now.toNat := by
    intro p hp
    rw [ClockSteady, hops] at hc
    have htail := (List.pairwise_cons.mp (List.pairwise_append.mp hc).2.1).2
    exact (List.pairwise_append.mp htail).2.2 (.poll p) (List.mem_map_of_mem hp) (.poll now)
      List.mem_cons_self
  rcases polls_spec hfresh polls with ⟨hearly, hrun⟩ | ⟨⟨p, hp, hpdue⟩, hlatch⟩
  · -- never due so far: the timer is as it was set up
    rw [hrun] at htimer
    rw [htarget] at hearly
    rcases Nat.lt_or_ge now.toNat a.due with hlt | hge
    · rw [htimer, hasElapsed_early (UInt64.lt_iff_toNat_lt.mpr (by rw [htarget]; exact hlt))]
      refine ⟨fun hf => absurd hf (by simp), fun _ => ⟨fun hf => absurd hf (by simp), ?_⟩⟩
      intro hd
      omega
    · refine ⟨fun _ => hge, fun ha => ⟨fun _ => ⟨hge, hearly⟩, fun _ => ?_⟩⟩
      rw [htimer, hasElapsed_oneShot hfresh (by rw [hauto]; exact ha)
        (UInt64.le_iff_toNat_le.mpr (by rw [htarget]; exact hge))]
  · -- due at an earlier poll: a one-shot timer has latched there
    rw [htarget] at hpdue
    have hle := hmono p hp
    refine ⟨fun _ => by omega, fun ha => ⟨fun hf => ?_, fun hd => ?_⟩⟩
    · have hl : timer.hasElapsed = true := by rw [htimer]; exact hlatch (by rw [hauto]; exact ha)
      rw [hasElapsed_latched now hl] at hf
      exact absurd hf (by simp)
    · have := hd.2 p hp
      omega

/-- **A wrapped deadline answers at once.** -/
theorem wrapped_answer {a : Arming} {now : UInt64} (hwrap : 2 ^ 64 ≤ a.due)
    (hnow : a.clock.toNat ≤ now.toNat) :
    (simpleTimerHasElapsed (simpleTimerSetup a.clock a.waitTime a.autoReset) now).1 = true := by
  have hlt := a.waitTime.toNat_lt
  have htarget := setup_target a
  have hpast : (simpleTimerSetup a.clock a.waitTime a.autoReset).targetTime ≤ now := by
    refine UInt64.le_iff_toNat_le.mpr ?_
    rw [htarget]
    unfold Arming.due at hwrap ⊢
    omega
  cases ha : a.autoReset with
  | true => rw [ha] at hpast; rw [hasElapsed_autoReset rfl rfl hpast]
  | false => rw [ha] at hpast; rw [hasElapsed_oneShot rfl rfl hpast]

/-! ## The law and its condition -/

/--
**A timer never fires early, and a one-shot timer fires once, exactly when every polled arming fits
the clock.**

From any timer, over any run of the three calls on a clock that does not go back.
-/
theorem simpleTimer_law_iff (t : SimpleTimer) (ops : List SimpleTimerOp) (hc : ClockSteady ops) :
    SimpleTimerLaw t ops ↔ ArmingsFit t ops := by
  constructor
  · intro hlaw pre op now post a hops harm
    rcases Nat.lt_or_ge a.due (2 ^ 64) with hlt | hwrap
    · exact hlt
    · exfalso
      -- the poll right after a wrapped arming answers, although its ticks cannot have passed
      obtain ⟨hclock, hsetup⟩ := step_arming harm
      have hnow : a.clock.toNat ≤ now.toNat := by
        rw [ClockSteady, hops] at hc
        have htail := (List.pairwise_cons.mp (List.pairwise_append.mp hc).2.1).1
        have := htail (.poll now) List.mem_cons_self
        rwa [hclock] at this
      have hsince : PolledSince t ops a [] now
          (simpleTimerSetup a.clock a.waitTime a.autoReset) := by
        refine ⟨pre, op, post, hops, harm, ?_⟩
        rw [List.map_nil, simpleTimerRun_append, ← hsetup]
        rfl
      have hearly := hlaw.notEarly a [] now _ hsince (wrapped_answer hwrap hnow)
      have := now.toNat_lt
      omega
  · intro hfit
    exact
      { notEarly := fun a polls now timer h => (polledSince_answer hc hfit h).1
        once := fun a polls now timer h => (polledSince_answer hc hfit h).2 }

/-- The wait that never ends, armed one tick after power-up, and polled at once. -/
def endlessWait : List SimpleTimerOp := [.setup 1 18446744073709551615 false, .poll 1]

/-- It answers at that poll, having waited for nothing. -/
theorem endlessWait_answers : ¬SimpleTimerLaw .zeroed endlessWait := by
  intro h
  have hearly := h.notEarly ⟨1, 18446744073709551615, false⟩ [] 1
    ⟨18446744073709551615, 0, false, false⟩
    ⟨[], .setup 1 18446744073709551615 false, [], rfl, rfl, rfl⟩ rfl
  exact absurd hearly (by decide)

/-- A one-shot timer of 100 ticks, polled too early, on time and late, then reset and polled. -/
def hundredTicks : List SimpleTimerOp :=
  [.setup 7 100 false, .poll 106, .poll 107, .poll 300, .reset 300, .poll 399]

/-- All its deadlines fit, and so it keeps the law. -/
theorem hundredTicks_law :
    ClockSteady hundredTicks ∧ ArmingsFit .zeroed hundredTicks
      ∧ SimpleTimerLaw .zeroed hundredTicks := by
  have hc : ClockSteady hundredTicks := by unfold ClockSteady; decide
  have hall : ∀ pre ∈ hundredTicks.inits, ∀ op ∈ hundredTicks,
      ∀ a ∈ arming (simpleTimerRun .zeroed pre) op, a.due < 2 ^ 64 := by decide
  have hfit : ArmingsFit .zeroed hundredTicks := by
    intro pre op now post a hops harm
    exact hall pre ((List.mem_inits _ _).mpr ⟨_, hops.symm⟩) op (by rw [hops]; simp) a harm
  exact ⟨hc, hfit, (simpleTimer_law_iff .zeroed hundredTicks hc).mpr hfit⟩

end FwCore.Proof
