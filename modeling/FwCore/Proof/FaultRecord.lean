import FwCore.Proof.FaultKept

/-!
# The calls of `on_recover`

A fault returns to `FAULT_STATE_IDLE` by two paths, the cooldown of `fault_update` and
`fault_clear`, and both call `on_recover`. `RecoverCall` lists these calls in a run of a
program, those of the clears that callbacks make among them. The list is the record: a call
is on the trace if and only if it is listed, at the place and with the mask that the list
gives it.
-/

namespace FwCore.Proof

open FwCore Lib

section

variable {n : Nat}

/-- The two ways back to `FAULT_STATE_IDLE`. -/
inductive RecoveryPath where
  /-- The cooldown branch of `fault_update`. -/
  | cooldown
  /-- `fault_clear`. -/
  | clear
deriving DecidableEq, Repr

/-- A call of `on_recover`. -/
structure Recovery (n : Nat) where
  path : RecoveryPath
  /-- The fault that `fault_update` triggers or recovers meanwhile, if the clear is made in the
  callback of another. -/
  other : Option (Fin n)
  /-- The visit or the clear began in this world. -/
  start : FaultWorld n
  /-- What `detect` did. -/
  detect : Script
  /-- What `on_recover` does. -/
  onRecover : Script
  /-- It is called in this world. -/
  world : FaultWorld n

/-- In a run of the program `on_recover` of fault `i` is called. -/
inductive RecoverCall (ops : List (FaultOp n)) (i : Fin n) : Recovery n → Prop where
  | cooldown (env : Fin n → SlotEnv) (w : FaultWorld n) (visited : Visited ops env i w)
      (recovering : (w.fault i).state = .recovering)
      (due : (simpleTimerHasElapsed (w.fault i).recoveryTimer (env i).elapsedNow).1 = true)
      (gone : (env i).result = false)
      (given : ((cooldownWorld w i (env i).elapsedNow
        (runScript (env i).detect)).fault i).cfg.onRecover ≠ none) :
      RecoverCall ops i ⟨.cooldown, none, w, (env i).detect, (env i).action,
        cooldownWorld w i (env i).elapsedNow (runScript (env i).detect)⟩
  | clear (between : Option (Fin n)) (k : Nat) (detect onRecover rest : Script)
      (w : FaultWorld n) (reached : Reached ops between (.clear k detect false onRecover rest) w)
      (handle : w.handle k = some i) (active : (w.fault i).state = .active)
      (given : ((clearWorld w i (runScript detect)).fault i).cfg.onRecover ≠ none) :
      RecoverCall ops i ⟨.clear, between, w, detect, onRecover, clearWorld w i (runScript detect)⟩

variable {ops : List (FaultOp n)} {between : Option (Fin n)} {i : Fin n} {c : Script}
  {w u : FaultWorld n} {r : Recovery n}

/-! ## The list is sound -/

/-- The trace only grows. -/
theorem trace_kept (t : List (FaultEvent n)) : KeptInUpdate fun w => t <+: w.trace where
  script := {
    emit := fun h _ => h.trans (List.prefix_append _ _)
    assign := fun h _ _ _ => h
    register := fun h _ => h }
  setState := fun h _ _ => h

/-- The script runs on from where `on_recover` is called to the end of the run. -/
theorem RecoverCall.recorded (h : RecoverCall ops i r) :
    (enterRecover r.world i).trace <+: (faultRun (.init n) ops).trace := by
  have hkept := trace_kept (enterRecover r.world i).trace
  have hbody := fun c => hkept.script.run c (List.prefix_refl (enterRecover r.world i).trace)
  cases h with
  | cooldown env w visited recovering due gone given =>
      exact Entered.kept hkept (.onRecover env i w visited recovering due gone given) (hbody _)
  | clear between k detect onRecover rest w reached handle active given =>
      obtain ⟨_, _, hentered, hinside⟩ := reached
      have hcall := hinside.onRecover handle active given
      exact hentered.kept hkept (hcall.kept hkept.script (hbody _))

/-! ## The list is complete -/

/-- Every call of `on_recover` that is on record in `w` is one of the program's. -/
def Listed (ops : List (FaultOp n)) (w : FaultWorld n) : Prop :=
  ∀ i fn mask before after, w.trace = before ++ .onRecover i fn mask :: after →
    ∃ r, RecoverCall ops i r ∧ r.world.trace = before
      ∧ (r.world.fault i).cfg.onRecover = fn ∧ r.world.sys.activeMask = mask

theorem Listed.emit (h : Listed ops w) (e : FaultEvent n)
    (he : ∀ i fn mask, e = .onRecover i fn mask → ∃ r, RecoverCall ops i r
      ∧ r.world.trace = w.trace ∧ (r.world.fault i).cfg.onRecover = fn
      ∧ r.world.sys.activeMask = mask) : Listed ops (w.emit e) := by
  intro i fn mask before after ht
  rw [FaultWorld.emit_trace] at ht
  rcases List.eq_nil_or_concat after with rfl | ⟨after, e', rfl⟩
  · obtain ⟨hbefore, hlast⟩ := List.append_inj' ht rfl
    obtain ⟨r, hr, htrace, hrest⟩ := he i fn mask (List.cons.inj hlast).1
    exact ⟨r, hr, htrace.trans hbefore, hrest⟩
  · rw [List.concat_eq_append, ← List.cons_append, ← List.append_assoc] at ht
    exact h i fn mask before after (List.append_inj' ht rfl).1

/-- Most events are not of this kind. -/
theorem Listed.aside (h : Listed ops w) {e : FaultEvent n}
    (he : ∀ i fn mask, e ≠ .onRecover i fn mask) : Listed ops (w.emit e) :=
  h.emit e fun i fn mask heq => absurd heq (he i fn mask)

theorem Listed.enter (h : Listed ops r.world) (hr : RecoverCall ops i r) :
    Listed ops (enterRecover r.world i) := by
  refine h.emit _ fun i' fn mask heq => ?_
  obtain ⟨rfl, rfl, rfl⟩ := FaultEvent.onRecover.inj heq
  exact ⟨r, hr, rfl, rfl, rfl⟩

/-- `on_recover` is called, if it is there. -/
theorem Listed.callOnRecover (h : Listed ops u) (body : Script)
    (hr : (u.fault i).cfg.onRecover ≠ none → Listed ops (runScript body (enterRecover u i))) :
    Listed ops (u.callOnRecover i (runScript body)) := by
  unfold FaultWorld.callOnRecover
  split
  · exact h
  · rename_i hgiven
    exact hr hgiven

theorem reached_next {call rest : Script} (h : Reached ops between c w)
    (hc : nextCall c = some (call, rest)) : Reached ops between rest (runScript call w) := by
  obtain ⟨c₀, w₀, hentered, hinside⟩ := h
  exact ⟨c₀, w₀, hentered, hinside.next hc⟩

theorem Listed.toIdle (h : Listed ops w) (i : Fin n) : Listed ops (w.toIdle i) :=
  Listed.aside (w := w.setState i .idle) h (by simp)

theorem Listed.historyClear (h : Listed ops w) (handle : Option (Fin n)) :
    Listed ops (w.historyClear handle) := by
  cases handle with
  | none => exact h
  | some i => exact Listed.aside (w := faultHistoryClear w (some i)) h (by simp)

theorem Listed.historyClearAll (h : Listed ops w) : Listed ops w.historyClearAll :=
  Listed.aside (w := faultHistoryClearAll w) h (by simp)

/-- **A callback tells of no other calls**, nor do those of its clears. -/
theorem runScript_listed (script : Script) (h : Reached ops between script w)
    (hw : Listed ops w) : Listed ops (runScript script w) := by
  induction script generalizing w with
  | done => exact hw
  | historyClear name rest ih => exact ih (reached_next h rfl) (hw.historyClear _)
  | historyClearAll rest ih => exact ih (reached_next h rfl) hw.historyClearAll
  | register config rest ih => exact ih (reached_next h rfl) hw
  | clear name detect result onRecover rest ihd ihr ihrest =>
      refine ihrest (reached_next h rfl) ?_
      show Listed ops (faultClear w (w.handle name) (runScript detect) result (runScript onRecover))
      obtain ⟨c₀, w₀, hentered, hinside⟩ := h
      cases hk : w.handle name with
      | none => exact hw
      | some i =>
          by_cases hs : (w.fault i).state = .active
          · have hasked : Listed ops (w.callDetect i (runScript detect) result) :=
              (ihd ⟨c₀, w₀, hentered, hinside.detect hk hs⟩ hw).aside (by simp)
            cases result with
            | true =>
                rw [faultClear_refuses hs]
                exact hasked.aside (by simp)
            | false =>
                have hclear : Listed ops (clearWorld w i (runScript detect)) :=
                  hasked.aside (by simp)
                have hcalled := hclear.callOnRecover (i := i) onRecover fun hgiven => by
                  -- this is the call that the list has
                  have hr : RecoverCall ops i _ := .clear between name detect onRecover rest w
                    ⟨c₀, w₀, hentered, hinside⟩ hk hs hgiven
                  exact ihr ⟨c₀, w₀, hentered, hinside.onRecover hk hs hgiven⟩
                    (Listed.enter hclear hr)
                have hmask : Listed ops (FaultWorld.maskClearActive _ i) := hcalled
                rw [faultClear_recovers hs]
                exact hmask.toIdle i
          · rw [faultClear_inactive hs]
            exact hw

theorem reached_entered (h : Entered ops between c w) : Reached ops between c w :=
  ⟨c, w, h, .here⟩

section Visits

variable {env : Fin n → SlotEnv} (h : Visited ops env i w)
include h

theorem faultUpdateIdle_listed (hs : (w.fault i).state = .idle) (hw : Listed ops w) :
    Listed ops (faultUpdateIdle w i (env i).now (runScript (env i).detect) (env i).result
      (runScript (env i).action)) := by
  have hasked : Listed ops (w.callDetect i (runScript (env i).detect) (env i).result) :=
    (runScript_listed _ (reached_entered (.detect env i w h hs)) hw).aside (by simp)
  unfold faultUpdateIdle
  dsimp only
  cases hresult : (env i).result with
  | false =>
      rw [hresult] at hasked
      exact hasked
  | true =>
      rw [hresult] at hasked
      have hnoted : Listed ops ((w.callDetect i (runScript (env i).detect) true).noteTrigger i) :=
        hasked
      have henter : Listed ops (enterFault w i (runScript (env i).detect)) :=
        hnoted.aside (by simp)
      have hcalled := runScript_listed _
        (reached_entered (.onFault env i w h hs hresult)) henter
      have hprinted := fun fmt args =>
        hcalled.aside (e := .uprint ⟨fmt, args⟩) (by simp)
      rw [if_pos rfl]
      split
      · exact hprinted _ _
      · exact hprinted _ _

theorem faultUpdateRecovering_listed (hs : (w.fault i).state = .recovering)
    (hw : Listed ops w) :
    Listed ops (faultUpdateRecovering w i (env i).elapsedNow (env i).now
      (runScript (env i).detect) (env i).result (runScript (env i).action)) := by
  have hpolled : Listed ops (polledWorld w i (env i).elapsedNow) := hw
  by_cases hdue : (simpleTimerHasElapsed (w.fault i).recoveryTimer (env i).elapsedNow).1 = true
  · have hasked : Listed ops ((polledWorld w i (env i).elapsedNow).callDetect i
        (runScript (env i).detect) (env i).result) :=
      (runScript_listed _ (reached_entered (.recheck env i w h hs hdue)) hpolled).aside (by simp)
    have hprinted := fun fmt args => hasked.aside (e := .uprint ⟨fmt, args⟩) (by simp)
    cases hresult : (env i).result with
    | true =>
        rw [hresult] at hprinted
        rw [faultUpdateRecovering_extends hdue]
        exact hprinted _ _
    | false =>
        rw [hresult] at hprinted
        have hcooldown : Listed ops (cooldownWorld w i (env i).elapsedNow
            (runScript (env i).detect)) := hprinted _ _
        have hcalled := hcooldown.callOnRecover (i := i) (env i).action fun hgiven => by
          -- and this is the other one
          have hr : RecoverCall ops i _ := .cooldown env w h hs hdue hresult hgiven
          exact runScript_listed _ (reached_entered (.onRecover env i w h hs hdue hresult hgiven))
            (Listed.enter hcooldown hr)
        rw [faultUpdateRecovering_ends hdue]
        exact hcalled.toIdle i
  · rw [faultUpdateRecovering_waits hdue]
    exact hpolled

/-- A visit tells of no other calls. -/
theorem faultUpdateSlot_listed (hw : Listed ops w) :
    Listed ops (faultUpdateSlot w i (env i).elapsedNow (env i).now (runScript (env i).detect)
      (env i).result (runScript (env i).action)) := by
  cases hs : (w.fault i).state with
  | active =>
      rw [faultUpdateSlot_active hs]
      exact hw
  | idle =>
      rw [faultUpdateSlot_idle h.registered hs]
      exact faultUpdateIdle_listed h hs hw
  | recovering =>
      rw [faultUpdateSlot_recovering h.registered hs]
      exact faultUpdateRecovering_listed h hs hw

end Visits

theorem faultUpdateLoop_listed {env : Fin n → SlotEnv} (is : List (Fin n)) {w₀ : FaultWorld n}
    (h : ∀ i v, SlotVisited env i v is w → SlotVisited env i v (List.finRange n) w₀)
    (hupdate : ∃ pre post, ops = pre ++ .update env :: post ∧ w₀ = faultRun (.init n) pre)
    (hw : Listed ops w) : Listed ops (faultUpdateLoop env is w) := by
  induction is generalizing w with
  | nil => exact hw
  | cons i is ih =>
      unfold faultUpdateLoop
      split
      · rename_i hi
        refine ih (fun i' v hv => h i' v (.later i is w hi hv)) ?_
        by_cases hreg : (w.fault i).registered = true
        · obtain ⟨pre, post, hops, rfl⟩ := hupdate
          exact faultUpdateSlot_listed ⟨⟨pre, post, hops, h i w (.here is hi)⟩, hreg⟩ hw
        · rw [faultUpdateSlot_unregistered hreg]
          exact hw
      · exact hw

theorem faultCall_listed {pre post : List (FaultOp n)} {op : FaultOp n}
    (hops : ops = pre ++ op :: post) (hw : Listed ops (faultRun (.init n) pre)) :
    Listed ops (faultCall (faultRun (.init n) pre) op) := by
  have hscript : ∀ c, FaultOp.script op = some c →
      Listed ops (runScript c (faultRun (.init n) pre)) :=
    fun c hc => runScript_listed c (reached_entered (.call pre post op c hops hc)) hw
  cases op with
  | register config => exact hscript _ rfl
  | update env => exact faultUpdateLoop_listed _ (fun _ _ h => h) ⟨pre, post, hops, rfl⟩ hw
  | clear name detect result onRecover => exact hscript _ rfl
  | historyClear name => exact hscript _ rfl
  | historyClearAll => exact hscript _ rfl

theorem faultRun_listed {pre post : List (FaultOp n)} (hops : ops = pre ++ post)
    (hw : Listed ops (faultRun (.init n) pre)) :
    Listed ops (faultRun (faultRun (.init n) pre) post) := by
  induction post generalizing pre with
  | nil => exact hw
  | cons op post ih =>
      have hpre : ops = (pre ++ [op]) ++ post := by rw [hops, List.append_assoc]; rfl
      have hrun : faultRun (.init n) (pre ++ [op]) = faultCall (faultRun (.init n) pre) op :=
        faultRun_append _ pre [op]
      have hrest := ih hpre
      rw [hrun] at hrest
      exact hrest (faultCall_listed hops hw)

/--
**The calls of `on_recover` on the trace of a run are the ones listed**, each with the pointer
and the mask of its world.
-/
theorem recoverCall_iff (ops : List (FaultOp n)) (i : Fin n) (fn : Option FnPtr)
    (mask : BitVec 32) (before : List (FaultEvent n)) :
    (∃ after, (faultRun (.init n) ops).trace = before ++ .onRecover i fn mask :: after)
      ↔ ∃ r, RecoverCall ops i r ∧ r.world.trace = before
        ∧ (r.world.fault i).cfg.onRecover = fn ∧ r.world.sys.activeMask = mask := by
  constructor
  · intro ⟨after, h⟩
    have hinit : Listed ops (faultRun (.init n) []) := fun _ _ _ before after h =>
      absurd h.symm (List.append_ne_nil_of_right_ne_nil before (List.cons_ne_nil _ _))
    have hall : Listed ops (faultRun (.init n) ops) :=
      faultRun_listed (List.nil_append ops).symm hinit
    exact hall i fn mask before after h
  · rintro ⟨r, hr, rfl, rfl, rfl⟩
    obtain ⟨after, h⟩ := hr.recorded
    exact ⟨after, by rw [← h]; exact List.append_assoc _ _ _⟩

end

end FwCore.Proof
