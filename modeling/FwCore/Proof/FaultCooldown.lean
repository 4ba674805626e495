import FwCore.Proof.FaultSlots

/-!
# The cooldown of a fault

The recovery timer is a one-shot timer, and one that has fired says no for ever. A
fault that were `RECOVERING` with such a timer would never be looked at again. What
rules it out is `CooldownOk`: a fault is `RECOVERING` only while its timer is as it
was set up, `recovery_ms` before it is due, in the last visit in which `detect` said
true. Such a visit is also the only one that fires the timer, and it either leaves
`RECOVERING` or sets the timer up again.
-/

namespace FwCore.Proof

open FwCore Lib

section

variable {n : Nat} {i : Fin n} {w : FaultWorld n}

/-! ## The invariant -/

/-- The clock reading `now` of an update is `2 ^ 32` or more below the end of its type. -/
def ClockLow (i : Fin n) : FaultOp n → Prop
  | .update env => (env i).now.toNat + 2 ^ 32 ≤ 2 ^ 64
  | _ => True

/-- When the cooldown of fault `i` was last armed: an update arms it if `detect` says true. -/
def armedBy (i : Fin n) (w : FaultWorld n) (armed : Option UInt64) : FaultOp n → Option UInt64
  | .update env => if true ∈ newDetects i w (faultUpdate env w) then some (env i).now else armed
  | _ => armed

/-- The clock reading with which the cooldown of fault `i` was last armed in a run from `w`. -/
def lastArmed (i : Fin n) : FaultWorld n → Option UInt64 → List (FaultOp n) → Option UInt64
  | _, armed, [] => armed
  | w, armed, op :: ops => lastArmed i (faultCall w op) (armedBy i w armed op) ops

/-- What holds of a registered fault between calls, its cooldown last armed at `armed`. -/
structure CooldownOk (armed : Option UInt64) (f : Fault) : Prop where
  registered : f.registered = true
  /-- A `RECOVERING` fault waits for a timer as it was set up: nobody has seen it fire. -/
  recovering : f.state = .recovering → 0 < f.cfg.recoveryMs ∧ ∃ a, armed = some a
    ∧ a.toNat + 2 ^ 32 ≤ 2 ^ 64
    ∧ f.recoveryTimer = simpleTimerSetup a f.cfg.recoveryMs.toUInt64 false
  /-- Only a fault without a cooldown is latched. -/
  active : f.state = .active → f.cfg.recoveryMs = 0

variable {armed : Option UInt64} {f f' : Fault} {e : SlotEnv}

/-- A cooldown armed from a clock that is low enough is armed as configured. -/
theorem setup_armed (ms : UInt32) {now : UInt64} (h : now.toNat + 2 ^ 32 ≤ 2 ^ 64) :
    (simpleTimerSetup now ms.toUInt64 false).Armed (now.toNat + ms.toNat) := by
  have hms := ms.toNat_lt
  rw [← UInt32.toNat_toUInt64 ms] at hms ⊢
  exact SimpleTimer.armed_setup (by omega)

theorem CooldownOk.congr (h : CooldownOk armed f) (hf : SameButHistory f f') :
    CooldownOk armed f' := by
  obtain ⟨flag, rfl⟩ := hf
  exact ⟨h.registered, h.recovering, h.active⟩

theorem CooldownOk.toIdle (h : CooldownOk armed f) : CooldownOk armed { f with state := .idle } :=
  ⟨h.registered, fun hs => absurd hs (by simp), fun hs => absurd hs (by simp)⟩

/-- Before its cooldown is over, a visit leaves a `RECOVERING` fault alone. -/
theorem slotFault_early {d : Nat} (hs : f.state = .recovering) (ht : f.recoveryTimer.Armed d)
    (hd : e.elapsedNow.toNat < d) : slotFault f e = f ∧ slotDetects f e = [] := by
  unfold slotFault slotDetects
  rw [hs]
  dsimp only
  rw [ht.poll_early hd, ← hs]
  exact ⟨rfl, rfl⟩

/-- When its cooldown is over, a visit asks `detect` once, and does as it says. -/
theorem slotFault_due {d : Nat} (hs : f.state = .recovering) (ht : f.recoveryTimer.Armed d)
    (hd : d ≤ e.elapsedNow.toNat) : slotDetects f e = [e.result] ∧ slotFault f e =
      if e.result then
        { f with recoveryTimer := simpleTimerSetup e.now f.cfg.recoveryMs.toUInt64 false }
      else { f with
        recoveryTimer := { f.recoveryTimer with hasElapsed := true }
        state := .idle } := by
  unfold slotFault slotDetects
  rw [hs]
  dsimp only
  rw [ht.poll_due hd, ← hs]
  exact ⟨rfl, rfl⟩

/-- A visit to an `IDLE` fault whose `detect` says true, which is a trigger. -/
theorem slotFault_trigger (hs : f.state = .idle) (hr : e.result = true) :
    slotDetects f e = [true] ∧ slotOnFaults f e = 1 ∧
      ((0 < f.cfg.recoveryMs ∧ slotFault f e = { f with
        triggerCount := f.triggerCount + 1
        hasEverTriggered := true
        recoveryTimer := simpleTimerSetup e.now f.cfg.recoveryMs.toUInt64 false
        state := .recovering })
      ∨ (f.cfg.recoveryMs = 0 ∧ slotFault f e = { f with
        triggerCount := f.triggerCount + 1
        hasEverTriggered := true
        state := .active })) := by
  unfold slotFault slotDetects slotOnFaults triggeredFault
  rw [hs, hr]
  dsimp only
  refine ⟨rfl, rfl, ?_⟩
  rw [if_pos rfl]
  by_cases hms : f.cfg.recoveryMs > 0
  · exact Or.inl ⟨hms, if_pos hms⟩
  · refine Or.inr ⟨?_, if_neg hms⟩
    exact UInt32.le_zero_iff.mp (UInt32.not_lt.mp hms)

/-- A visit to an `IDLE` fault whose `detect` says false. -/
theorem slotFault_calm (hs : f.state = .idle) (hr : e.result = false) :
    slotDetects f e = [false] ∧ slotFault f e = f := by
  unfold slotFault slotDetects
  rw [hs, hr]
  exact ⟨rfl, rfl⟩

/-- **A visit keeps the invariant**, with the cooldown armed anew if `detect` said true. -/
theorem CooldownOk.visit (h : CooldownOk armed f) (hlow : e.now.toNat + 2 ^ 32 ≤ 2 ^ 64) :
    CooldownOk (if true ∈ slotDetects f e then some e.now else armed) (slotFault f e) := by
  cases hs : f.state with
  | idle =>
      cases hr : e.result with
      | true =>
          obtain ⟨hyes, _, ⟨hms, hf⟩ | ⟨hms, hf⟩⟩ := slotFault_trigger hs hr
          · rw [hyes, hf, if_pos (List.mem_singleton_self true)]
            exact ⟨h.registered, fun _ => ⟨hms, e.now, rfl, hlow, rfl⟩,
              fun hs' => absurd hs' (by simp)⟩
          · rw [hyes, hf, if_pos (List.mem_singleton_self true)]
            exact ⟨h.registered, fun hs' => absurd hs' (by simp), fun _ => hms⟩
      | false =>
          obtain ⟨hno, hf⟩ := slotFault_calm hs hr
          rw [hno, hf, if_neg (by simp)]
          exact h
  | active =>
      have hf : slotFault f e = f ∧ slotDetects f e = [] := by
        unfold slotFault slotDetects
        rw [hs]
        exact ⟨rfl, rfl⟩
      rw [hf.1, hf.2, if_neg List.not_mem_nil]
      exact h
  | recovering =>
      obtain ⟨hms, a, ha, hlowa, ht⟩ := h.recovering hs
      have harmed := setup_armed f.cfg.recoveryMs hlowa
      rw [← ht] at harmed
      rcases Nat.lt_or_ge e.elapsedNow.toNat (a.toNat + f.cfg.recoveryMs.toNat) with hd | hd
      · obtain ⟨hf, hno⟩ := slotFault_early hs harmed hd
        rw [hf, hno, if_neg List.not_mem_nil]
        exact h
      · obtain ⟨hone, hf⟩ := slotFault_due hs harmed hd
        rw [hone, hf]
        cases hr : e.result with
        | true =>
            rw [if_pos rfl, if_pos (List.mem_singleton_self true)]
            exact ⟨h.registered, fun _ => ⟨hms, e.now, rfl, hlow, rfl⟩, h.active⟩
        | false =>
            rw [if_neg (by simp)]
            exact ⟨h.registered, fun hs' => absurd hs' (by simp), fun hs' => absurd hs' (by simp)⟩

/-! ## Runs -/

/-- A quiet call other than an update. -/
theorem cooldownOk_other {op : FaultOp n} (hq : Quiet op) (hi : i.val < w.sys.faultCount)
    (hop : ∀ env, op ≠ .update env) (h : CooldownOk armed (w.fault i)) :
    CooldownOk armed ((faultCall w op).fault i) := by
  rcases faultCall_cases hq hi hop with hf | ⟨_, hf⟩
  · exact h.congr hf
  · rw [hf]
    exact h.toIdle

/-- **Every quiet call keeps the invariant.** -/
theorem cooldownOk_step {op : FaultOp n} (hq : Quiet op) (hlow : ClockLow i op)
    (hw : i.val < w.sys.faultCount → CooldownOk armed (w.fault i))
    (hi : i.val < (faultCall w op).sys.faultCount) :
    CooldownOk (armedBy i w armed op) ((faultCall w op).fault i) := by
  rcases Nat.lt_or_ge i.val w.sys.faultCount with hold | hnew
  · have h := hw hold
    cases op with
    | update env =>
        have hseen := faultUpdate_slot hq hold h.registered
        show CooldownOk (armedBy i w armed (.update env)) ((faultUpdate env w).fault i)
        unfold armedBy
        dsimp only
        rw [hseen.fault, hseen.newDetects]
        exact h.visit hlow
    | register config => exact cooldownOk_other hq hold (by simp) h
    | clear k detect result onRecover => exact cooldownOk_other hq hold (by simp) h
    | historyClear k => exact cooldownOk_other hq hold (by simp) h
    | historyClearAll => exact cooldownOk_other hq hold (by simp) h
  · obtain ⟨hreg, hs⟩ := faultCall_registers hq hi hnew
    refine ⟨hreg, fun hs' => ?_, fun hs' => ?_⟩
    · rw [hs] at hs'
      exact absurd hs' (by simp)
    · rw [hs] at hs'
      exact absurd hs' (by simp)

theorem cooldownOk_run : ∀ (ops : List (FaultOp n)) (w : FaultWorld n) (armed : Option UInt64),
    (∀ op ∈ ops, Quiet op) → (∀ op ∈ ops, ClockLow i op) →
    (i.val < w.sys.faultCount → CooldownOk armed (w.fault i)) →
    i.val < (faultRun w ops).sys.faultCount →
      CooldownOk (lastArmed i w armed ops) ((faultRun w ops).fault i)
  | [], _, _, _, _, hw, hi => hw hi
  | op :: ops, w, armed, hq, hlow, hw, hi =>
      cooldownOk_run ops (faultCall w op) (armedBy i w armed op)
        (fun op' h => hq op' (List.mem_cons_of_mem op h))
        (fun op' h => hlow op' (List.mem_cons_of_mem op h))
        (cooldownOk_step (hq op List.mem_cons_self) (hlow op List.mem_cons_self) hw) hi

/-- An `ACTIVE` fault stays as it is in every quiet call but a clear that goes through. -/
theorem active_step {op : FaultOp n} (hq : Quiet op) (hi : i.val < w.sys.faultCount)
    (hreg : (w.fault i).registered = true) (hs : (w.fault i).state = .active)
    (hno : ¬ ClearedBy i w op) : SameButHistory (w.fault i) ((faultCall w op).fault i) := by
  have hother : (∀ env, op ≠ .update env) →
      SameButHistory (w.fault i) ((faultCall w op).fault i) := by
    intro hop
    rcases faultCall_cases hq hi hop with hf | ⟨hclear, _⟩
    · exact hf
    · exact absurd hclear hno
  cases op with
  | update env =>
      have hf := (faultUpdate_slot hq hi hreg).fault
      unfold slotFault at hf
      rw [hs] at hf
      show SameButHistory _ ((faultUpdate env w).fault i)
      rw [hf]
      exact ⟨(w.fault i).hasEverTriggered, rfl⟩
  | register config => exact hother (by simp)
  | clear k detect result onRecover => exact hother (by simp)
  | historyClear k => exact hother (by simp)
  | historyClearAll => exact hother (by simp)

theorem active_run : ∀ (later : List (FaultOp n)) (w : FaultWorld n),
    (∀ op ∈ later, Quiet op) → i.val < w.sys.faultCount → (w.fault i).registered = true →
    (w.fault i).state = .active →
      ((faultRun w later).fault i).state = .active
      ∨ ∃ pre op post, later = pre ++ op :: post ∧ ClearedBy i (faultRun w pre) op
  | [], _, _, _, _, hs => Or.inl hs
  | op :: later, w, hq, hi, hreg, hs => by
      by_cases hclear : ClearedBy i w op
      · exact Or.inr ⟨[], op, later, rfl, hclear⟩
      · have hop := hq op List.mem_cons_self
        obtain ⟨flag, hf⟩ := active_step hop hi hreg hs hclear
        have hrest := active_run later (faultCall w op)
          (fun op' h => hq op' (List.mem_cons_of_mem op h)) (faultCall_keeps hop hi)
          (by rw [hf]; exact hreg) (by rw [hf]; exact hs)
        rcases hrest with hs' | ⟨pre, op', post, heq, hclear'⟩
        · exact Or.inl hs'
        · exact Or.inr ⟨op :: pre, op', post, by rw [heq]; rfl, hclear'⟩

/-- What an update does to a fault whose cooldown runs, last armed at `a`. -/
structure CooldownExact (i : Fin n) (a : UInt64) (w : FaultWorld n) (env : Fin n → SlotEnv) :
    Prop where
  /-- Too early: `detect` is not asked, and the fault stays as it is. -/
  early : (env i).elapsedNow.toNat < a.toNat + (w.fault i).cfg.recoveryMs.toNat →
    newDetects i w (faultUpdate env w) = [] ∧ (faultUpdate env w).fault i = w.fault i
  /-- Due: `detect` is asked once, and nothing is triggered. -/
  due : a.toNat + (w.fault i).cfg.recoveryMs.toNat ≤ (env i).elapsedNow.toNat →
    newDetects i w (faultUpdate env w) = [(env i).result]
    ∧ onFaults i (faultUpdate env w).trace = onFaults i w.trace
    ∧ ((faultUpdate env w).fault i).triggerCount = (w.fault i).triggerCount
  /-- Due and gone: the fault is idle. -/
  gone : a.toNat + (w.fault i).cfg.recoveryMs.toNat ≤ (env i).elapsedNow.toNat →
    (env i).result = false → ((faultUpdate env w).fault i).state = .idle
  /-- Due and still there: the cooldown starts again from the current clock. -/
  extended : a.toNat + (w.fault i).cfg.recoveryMs.toNat ≤ (env i).elapsedNow.toNat →
    (env i).result = true → ((faultUpdate env w).fault i).state = .recovering
      ∧ armedBy i w (some a) (.update env) = some (env i).now
      ∧ ((faultUpdate env w).fault i).recoveryTimer
        = simpleTimerSetup (env i).now (w.fault i).cfg.recoveryMs.toUInt64 false

theorem cooldown_exact {a : UInt64} {env : Fin n → SlotEnv} (hq : Quiet (.update env))
    (hi : i.val < w.sys.faultCount) (hreg : (w.fault i).registered = true)
    (hs : (w.fault i).state = .recovering)
    (harmed : (w.fault i).recoveryTimer.Armed (a.toNat + (w.fault i).cfg.recoveryMs.toNat)) :
    CooldownExact i a w env := by
  have hseen := faultUpdate_slot hq hi hreg
  have hcalls : slotOnFaults (w.fault i) (env i) = 0 := by
    unfold slotOnFaults
    rw [if_neg (by rw [hs]; simp)]
  refine ⟨fun hd => ?_, fun hd => ?_, fun hd hr => ?_, fun hd hr => ?_⟩
  · obtain ⟨hf, hno⟩ := slotFault_early hs harmed hd
    rw [hseen.newDetects, hseen.fault]
    exact ⟨hno, hf⟩
  · obtain ⟨hone, hf⟩ := slotFault_due hs harmed hd
    rw [hseen.newDetects, hseen.onFaults, hseen.fault, hf, hcalls]
    refine ⟨hone, rfl, ?_⟩
    split <;> rfl
  · obtain ⟨_, hf⟩ := slotFault_due hs harmed hd
    rw [hseen.fault, hf, if_neg (by rw [hr]; simp)]
  · obtain ⟨hone, hf⟩ := slotFault_due hs harmed hd
    unfold armedBy
    dsimp only
    rw [hseen.newDetects, hseen.fault, hone, hf, hr, if_pos rfl,
      if_pos (List.mem_singleton_self true)]
    exact ⟨hs, rfl, rfl⟩

/--
**The cooldown is exact, and never stuck.**

In every run whose callbacks do not call back, and whose clock stays `2 ^ 32` below
the end of its type; that it does not run backwards is not needed. A `RECOVERING`
fault is waiting for a timer set up at the clock reading `a` its cooldown was last
armed with, so any update that follows does as `CooldownExact` says, and no
`fault_clear` does anything to it.

A fault without a cooldown is never `RECOVERING`. A trigger makes it `ACTIVE`, and
`ACTIVE` it stays until a `fault_clear` of its own handle whose `detect` says false.
-/
theorem fault_cooldown (n : Nat) (ops : List (FaultOp n)) (i : Fin n)
    (hq : ∀ op ∈ ops, Quiet op) (hlow : ∀ op ∈ ops, ClockLow i op)
    (hi : i.val < (faultRun (.init n) ops).sys.faultCount) :
    let w := faultRun (FaultWorld.init n) ops
    ((w.fault i).state = .recovering →
      ∃ a, lastArmed i (.init n) none ops = some a
        ∧ (w.fault i).recoveryTimer
          = simpleTimerSetup a (w.fault i).cfg.recoveryMs.toUInt64 false
        ∧ (∀ env, Quiet (.update env) → CooldownExact i a w env)
        ∧ ∀ k detect result onRecover, w.handle k = some i →
          faultCall w (.clear k detect result onRecover) = w)
    ∧ ((w.fault i).cfg.recoveryMs = 0 →
      (w.fault i).state ≠ .recovering
      ∧ (∀ env, Quiet (.update env) → (w.fault i).state = .idle →
        newDetects i w (faultUpdate env w) = [(env i).result]
        ∧ ((env i).result = true → ((faultUpdate env w).fault i).state = .active))
      ∧ ((w.fault i).state = .active →
        (∀ later, (∀ op ∈ later, Quiet op) → ((faultRun w later).fault i).state = .active
          ∨ ∃ pre op post, later = pre ++ op :: post ∧ ClearedBy i (faultRun w pre) op)
        ∧ ∀ op, Quiet op → ClearedBy i w op → ((faultCall w op).fault i).state = .idle)) := by
  intro w
  have hok : CooldownOk (lastArmed i (.init n) none ops) (w.fault i) :=
    cooldownOk_run ops (.init n) none hq hlow (fun h => absurd h (Nat.not_lt_zero _)) hi
  refine ⟨fun hs => ?_, fun hms => ⟨fun hs => ?_, fun env henv hs => ?_, fun hs => ⟨?_, ?_⟩⟩⟩
  · obtain ⟨_, a, ha, hlowa, ht⟩ := hok.recovering hs
    have harmed := setup_armed (w.fault i).cfg.recoveryMs hlowa
    rw [← ht] at harmed
    refine ⟨a, ha, ht, fun env henv => cooldown_exact henv hi hok.registered hs harmed, ?_⟩
    intro k detect result onRecover hk
    unfold faultCall
    dsimp only
    rw [hk, faultClear_inactive (by rw [hs]; simp)]
  · exact absurd (hok.recovering hs).1 (by rw [hms]; simp)
  · have hseen := faultUpdate_slot henv hi hok.registered
    rw [hseen.newDetects, hseen.fault]
    cases hr : (env i).result with
    | true =>
        obtain ⟨hyes, _, ⟨hlong, _⟩ | ⟨_, hf⟩⟩ := slotFault_trigger hs hr
        · exact absurd hlong (by rw [hms]; simp)
        · rw [hf]
          exact ⟨hyes, fun _ => rfl⟩
    | false => exact ⟨(slotFault_calm hs hr).1, fun h => absurd h (by simp)⟩
  · intro later hlater
    exact active_run later w hlater hi hok.registered hs
  · intro op hop ⟨k, detect, onRecover, heq, hk, _⟩
    subst heq
    obtain ⟨rfl, rfl⟩ := hop
    obtain ⟨call, mask, h⟩ := faultClear_done hs
    show ((faultClear w (w.handle k) (runScript .done) false (runScript .done)).fault i).state = _
    rw [hk, h.self]

end

/-- A fault with a cooldown of half a second, raised at 1000 and found still there at 1600. -/
def extendedOnce : List (FaultOp 1) :=
  [.register (some ⟨none, some 1, some 2, none, 500⟩),
    .update (fun _ => ⟨1000, 1000, .done, true, .done⟩),
    .update (fun _ => ⟨1499, 1499, .done, false, .done⟩),
    .update (fun _ => ⟨1600, 1600, .done, true, .done⟩)]

theorem extendedOnce_quiet : ∀ op ∈ extendedOnce, Quiet op := by
  simp [extendedOnce, Quiet]

theorem extendedOnce_low : ∀ op ∈ extendedOnce, ClockLow 0 op := by
  simp [extendedOnce, ClockLow]

/-- It waits until 2100 now. -/
theorem fault_cooldown_extended :
    let w := faultRun (FaultWorld.init 1) extendedOnce
    lastArmed 0 (.init 1) none extendedOnce = some 1600
    ∧ (w.fault 0).state = .recovering
    ∧ ∃ a, lastArmed 0 (.init 1) none extendedOnce = some a
      ∧ ∀ env, Quiet (.update env) → CooldownExact 0 a w env := by
  refine ⟨rfl, rfl, ?_⟩
  obtain ⟨a, ha, _, hexact, _⟩ := (fault_cooldown 1 extendedOnce 0 extendedOnce_quiet
    extendedOnce_low (by decide)).1 rfl
  exact ⟨a, ha, hexact⟩

end FwCore.Proof
