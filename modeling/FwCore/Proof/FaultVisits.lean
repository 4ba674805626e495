import FwCore.Core.Fault

/-!
# What a visit does, call by call

With callbacks that do not call back into the fault manager, a visit to a fault is a
sequence of small changes to that fault, of events, and of writes to the masks.
`Touched` follows it from one to the next, so that what a branch of `fault_update` or
`fault_clear` comes to is read off at its end.
-/

namespace FwCore.Proof

open FwCore

variable {n : Nat} {i : Fin n} {w v : FaultWorld n}

/-- From `w` to `v` only fault `i` has changed: it became `f`, and `E` is what happened. -/
structure Touched (i : Fin n) (f : Fault) (E : List (FaultEvent n)) (w v : FaultWorld n) :
    Prop where
  count : v.sys.faultCount = w.sys.faultCount
  handles : v.handles = w.handles
  self : v.fault i = f
  others : ∀ j, j ≠ i → v.fault j = w.fault j
  trace : v.trace = w.trace ++ E

/-- What a trigger makes of a fault. -/
def triggeredFault (f : Fault) (now : UInt64) : Fault :=
  let f : Fault := { f with triggerCount := f.triggerCount + 1, hasEverTriggered := true }
  if f.cfg.recoveryMs > 0 then
    { f with
      recoveryTimer := simpleTimerSetup now f.cfg.recoveryMs.toUInt64 false
      state := .recovering }
  else { f with state := .active }

/-- What happens when fault `i` goes back to idle. -/
def recoverEvents (i : Fin n) (cfg : FaultConfig) (call : UprintCall) (mask : BitVec 32) :
    List (FaultEvent n) :=
  [.detect i cfg.detect false, .uprint call]
    ++ cfg.onRecover.toList.map (fun fn => .onRecover i (some fn) mask) ++ [.idle i]

namespace Touched

variable {f : Fault} {E : List (FaultEvent n)}

theorem refl (i : Fin n) (w : FaultWorld n) : Touched i (w.fault i) [] w w :=
  ⟨rfl, rfl, rfl, fun _ _ => rfl, (List.append_nil _).symm⟩

theorem emit (h : Touched i f E w v) (e : FaultEvent n) : Touched i f (E ++ [e]) w (v.emit e) where
  count := h.count
  handles := h.handles
  self := h.self
  others := h.others
  trace := by rw [FaultWorld.emit_trace, h.trace, List.append_assoc]

theorem detect (h : Touched i f E w v) (result : Bool) :
    Touched i f (E ++ [.detect i f.cfg.detect result]) w
      (v.callDetect i (runScript .done) result) := by
  unfold FaultWorld.callDetect
  rw [h.self]
  exact h.emit _

theorem onFault (h : Touched i f E w v) : Touched i f (E ++ [.onFault i f.cfg.onFault]) w
    (v.callOnFault i (runScript .done)) := by
  unfold FaultWorld.callOnFault
  rw [h.self]
  exact h.emit _

theorem print (h : Touched i f E w v) (fmt : String) (args : List UprintArg) :
    Touched i f (E ++ [.uprint ⟨fmt, args⟩]) w (v.print fmt args) := h.emit _

theorem onRecover (h : Touched i f E w v) :
    Touched i f
      (E ++ f.cfg.onRecover.toList.map (fun fn => .onRecover i (some fn) v.sys.activeMask)) w
      (v.callOnRecover i (runScript .done)) := by
  unfold FaultWorld.callOnRecover
  rw [h.self]
  cases f.cfg.onRecover with
  | none =>
      rw [Option.toList_none, List.map_nil, List.append_nil]
      exact h
  | some fn => exact h.emit _

theorem modify (h : Touched i f E w v) (g : Fault → Fault) :
    Touched i (g f) E w (v.modify i g) where
  count := h.count
  handles := h.handles
  self := by rw [FaultWorld.modify_self, h.self]
  others := fun j hj => (FaultWorld.modify_ne v i hj g).trans (h.others j hj)
  trace := h.trace

theorem setupTimer (h : Touched i f E w v) (now : UInt64) :
    Touched i { f with recoveryTimer := simpleTimerSetup now f.cfg.recoveryMs.toUInt64 false } E w
      (v.setupTimer i now) :=
  h.modify (fun f => { f with
    recoveryTimer := simpleTimerSetup now f.cfg.recoveryMs.toUInt64 false })

theorem setState (h : Touched i f E w v) (s : FaultState) :
    Touched i { f with state := s } E w (v.setState i s) :=
  h.modify (fun f => { f with state := s })

theorem toIdle (h : Touched i f E w v) :
    Touched i { f with state := .idle } (E ++ [.idle i]) w (v.toIdle i) :=
  (h.setState .idle).emit (.idle i)

theorem noteTrigger (h : Touched i f E w v) :
    Touched i { f with triggerCount := f.triggerCount + 1, hasEverTriggered := true } E w
      (v.noteTrigger i) where
  count := h.count
  handles := h.handles
  self := by rw [FaultWorld.noteTrigger_self, h.self]
  others := fun j hj => (FaultWorld.noteTrigger_ne v i hj).trans (h.others j hj)
  trace := h.trace

theorem maskClearActive (h : Touched i f E w v) : Touched i f E w (v.maskClearActive i) :=
  ⟨h.count, h.handles, h.self, h.others, h.trace⟩

theorem maskClearHistory (h : Touched i f E w v) : Touched i f E w (v.maskClearHistory i) :=
  ⟨h.count, h.handles, h.self, h.others, h.trace⟩

end Touched

/-! ## The branches of the update -/

/-- An `IDLE` fault whose `detect` says false. -/
theorem idle_calm (w : FaultWorld n) (i : Fin n) (now : UInt64) :
    Touched i (w.fault i) [.detect i (w.fault i).cfg.detect false] w
      (faultUpdateIdle w i now (runScript .done) false (runScript .done)) :=
  (Touched.refl i w).detect false

/-- An `IDLE` fault whose `detect` says true. -/
theorem idle_trigger (w : FaultWorld n) (i : Fin n) (now : UInt64) :
    ∃ call, Touched i (triggeredFault (w.fault i) now)
      [.detect i (w.fault i).cfg.detect true, .onFault i (w.fault i).cfg.onFault, .uprint call] w
      (faultUpdateIdle w i now (runScript .done) true (runScript .done)) := by
  have hcalled := ((Touched.refl i w).detect true).noteTrigger.onFault
  -- the world `on_fault` leaves
  obtain ⟨v, hv⟩ : ∃ v, v = ((w.callDetect i (runScript .done) true).noteTrigger i).callOnFault
    i (runScript .done) := ⟨_, rfl⟩
  unfold faultUpdateIdle triggeredFault
  dsimp only
  rw [← hv] at hcalled ⊢
  have hms : (v.fault i).cfg.recoveryMs = (w.fault i).cfg.recoveryMs := by rw [hcalled.self]
  rw [if_pos rfl, FaultWorld.print_fault, hms]
  by_cases hlong : (w.fault i).cfg.recoveryMs > 0
  · rw [if_pos hlong, if_pos hlong]
    exact ⟨_, ((hcalled.print _ _).setupTimer now).setState .recovering⟩
  · rw [if_neg hlong, if_neg hlong]
    exact ⟨_, (hcalled.print _ _).setState .active⟩

/-- A `RECOVERING` fault whose timer says no. -/
theorem recovering_wait {elapsedNow : UInt64} (now : UInt64) (result : Bool)
    (h : (simpleTimerHasElapsed (w.fault i).recoveryTimer elapsedNow).1 = false) :
    Touched i { w.fault i with
        recoveryTimer := (simpleTimerHasElapsed (w.fault i).recoveryTimer elapsedNow).2 } [] w
      (faultUpdateRecovering w i elapsedNow now (runScript .done) result (runScript .done)) := by
  unfold faultUpdateRecovering
  dsimp only
  rw [if_neg (by rw [h]; simp)]
  exact (Touched.refl i w).modify (fun f => { f with
    recoveryTimer := (simpleTimerHasElapsed (w.fault i).recoveryTimer elapsedNow).2 })

/-- A `RECOVERING` fault whose timer says yes, and `detect` true. -/
theorem recovering_extend {elapsedNow : UInt64} (now : UInt64)
    (h : (simpleTimerHasElapsed (w.fault i).recoveryTimer elapsedNow).1 = true) :
    ∃ call, Touched i { w.fault i with
        recoveryTimer := simpleTimerSetup now (w.fault i).cfg.recoveryMs.toUInt64 false }
      [.detect i (w.fault i).cfg.detect true, .uprint call] w
      (faultUpdateRecovering w i elapsedNow now (runScript .done) true (runScript .done)) := by
  have hasked := ((Touched.refl i w).modify (fun f => { f with
    recoveryTimer := (simpleTimerHasElapsed (w.fault i).recoveryTimer elapsedNow).2 })).detect true
  unfold faultUpdateRecovering
  dsimp only
  rw [if_pos h, if_pos rfl]
  exact ⟨_, (hasked.print _ _).setupTimer now⟩

/-- A `RECOVERING` fault whose timer says yes, and `detect` false. -/
theorem recovering_end {elapsedNow : UInt64} (now : UInt64)
    (h : (simpleTimerHasElapsed (w.fault i).recoveryTimer elapsedNow).1 = true) :
    ∃ call mask, Touched i { w.fault i with
        recoveryTimer := (simpleTimerHasElapsed (w.fault i).recoveryTimer elapsedNow).2
        state := .idle }
      (recoverEvents i (w.fault i).cfg call mask) w
      (faultUpdateRecovering w i elapsedNow now (runScript .done) false (runScript .done)) := by
  have hasked := ((Touched.refl i w).modify (fun f => { f with
    recoveryTimer := (simpleTimerHasElapsed (w.fault i).recoveryTimer elapsedNow).2 })).detect false
  unfold faultUpdateRecovering
  dsimp only
  rw [if_pos h, if_neg (by simp)]
  exact ⟨_, _, (hasked.print _ _).maskClearActive.onRecover.toIdle⟩

/-! ## The other calls -/

/-- A clear of a fault that is not `ACTIVE` does nothing at all. -/
theorem faultClear_inactive (hs : (w.fault i).state ≠ .active)
    (detect onRecover : FaultWorld n → FaultWorld n) (result : Bool) :
    faultClear w (some i) detect result onRecover = w := by
  unfold faultClear
  exact if_pos hs

/-- A clear that succeeds. -/
theorem faultClear_done (hs : (w.fault i).state = .active) :
    ∃ call mask, Touched i { w.fault i with state := .idle }
      (recoverEvents i (w.fault i).cfg call mask) w
      (faultClear w (some i) (runScript .done) false (runScript .done)) := by
  unfold faultClear
  dsimp only
  rw [if_neg (by rw [hs]; simp), if_pos rfl]
  exact ⟨_, _, (((Touched.refl i w).detect false).print _ _).onRecover.maskClearActive.toIdle⟩

/-- A clear that is ignored, because `detect` says true. -/
theorem faultClear_refused (hs : (w.fault i).state = .active) :
    ∃ call, Touched i (w.fault i) [.detect i (w.fault i).cfg.detect true, .uprint call] w
      (faultClear w (some i) (runScript .done) true (runScript .done)) := by
  unfold faultClear
  dsimp only
  rw [if_neg (by rw [hs]; simp), if_neg (by simp)]
  exact ⟨_, ((Touched.refl i w).detect true).print _ _⟩

theorem historyClear_touched (w : FaultWorld n) (i : Fin n) :
    Touched i { w.fault i with hasEverTriggered := false } [.historyClear i] w
      (w.historyClear (some i)) :=
  ((Touched.refl i w).modify (fun f => { f with hasEverTriggered := false })).maskClearHistory.emit
    (.historyClear i)

end FwCore.Proof
