import FwCore.Proof.FaultPoints
import FwCore.Proof.FaultVisits

/-!
# What outlasts a run

Some properties of a world no call makes an end of: what is on the trace stays there, and
what a callback leaves idle it does not raise. If such a property holds at one point of a run,
it holds from there on, in the callbacks that are under way and in the calls around them.
-/

namespace FwCore.Proof

open FwCore Lib

section

variable {n : Nat} {P : FaultWorld n → Prop} {ops : List (FaultOp n)} {between : Option (Fin n)}
  {i : Fin n} {c : Script} {w : FaultWorld n} {elapsedNow now : UInt64} {result : Bool}
  {detect onRecover action : FaultWorld n → FaultWorld n}

/-! ## The branches of a visit -/

theorem faultUpdateSlot_unregistered (hr : (w.fault i).registered ≠ true) :
    faultUpdateSlot w i elapsedNow now detect result action = w := by
  unfold faultUpdateSlot
  rw [if_pos (by simpa using hr)]

theorem faultUpdateSlot_active (hs : (w.fault i).state = .active) :
    faultUpdateSlot w i elapsedNow now detect result action = w := by
  unfold faultUpdateSlot
  rw [hs]
  split
  · rfl
  · rfl

theorem faultUpdateSlot_idle (hr : (w.fault i).registered = true)
    (hs : (w.fault i).state = .idle) : faultUpdateSlot w i elapsedNow now detect result action
      = faultUpdateIdle w i now detect result action := by
  unfold faultUpdateSlot
  rw [if_neg (by simp [hr]), hs]

theorem faultUpdateSlot_recovering (hr : (w.fault i).registered = true)
    (hs : (w.fault i).state = .recovering) :
    faultUpdateSlot w i elapsedNow now detect result action
      = faultUpdateRecovering w i elapsedNow now detect result action := by
  unfold faultUpdateSlot
  rw [if_neg (by simp [hr]), hs]

/-- The cooldown is not over. -/
theorem faultUpdateRecovering_waits
    (hdue : ¬(simpleTimerHasElapsed (w.fault i).recoveryTimer elapsedNow).1 = true) :
    faultUpdateRecovering w i elapsedNow now detect result action
      = polledWorld w i elapsedNow := by
  unfold faultUpdateRecovering
  dsimp only
  rw [if_neg hdue]
  rfl

/-- The cooldown is over, and begins again. -/
theorem faultUpdateRecovering_extends
    (hdue : (simpleTimerHasElapsed (w.fault i).recoveryTimer elapsedNow).1 = true) :
    faultUpdateRecovering w i elapsedNow now detect true action
      = (((polledWorld w i elapsedNow).callDetect i detect true).print
        "[FAULT] '%s' still active, extending cooldown\r\n"
        [((polledWorld w i elapsedNow).callDetect i detect true).nameArg i]).setupTimer i now := by
  unfold faultUpdateRecovering
  dsimp only
  rw [if_pos hdue, if_pos rfl]
  rfl

/-- A cooldown that ends calls `on_recover` in `cooldownWorld`, and then only sets the state. -/
theorem faultUpdateRecovering_ends
    (hdue : (simpleTimerHasElapsed (w.fault i).recoveryTimer elapsedNow).1 = true) :
    faultUpdateRecovering w i elapsedNow now detect false action
      = ((cooldownWorld w i elapsedNow detect).callOnRecover i action).toIdle i := by
  unfold faultUpdateRecovering
  dsimp only
  rw [if_pos hdue, if_neg (by simp)]
  rfl

/-! ## The branches of a clear -/

/-- A clear that succeeds calls `on_recover` in `clearWorld`, and the mask comes after. -/
theorem faultClear_recovers (hs : (w.fault i).state = .active) :
    faultClear w (some i) detect false onRecover
      = (((clearWorld w i detect).callOnRecover i onRecover).maskClearActive i).toIdle i := by
  unfold faultClear
  dsimp only
  rw [if_neg (by rw [hs]; simp)]
  rfl

/-- A clear whose `detect` says true only says so. -/
theorem faultClear_refuses (hs : (w.fault i).state = .active) :
    faultClear w (some i) detect true onRecover
      = (w.callDetect i detect true).print
        "[FAULT] '%s' clear ignored — condition still active\r\n"
        [(w.callDetect i detect true).nameArg i] := by
  unfold faultClear
  dsimp only
  rw [if_neg (by simp [hs]), if_neg (by simp)]

/-! ## What a callback keeps up -/

/-- Once it holds, no assignment, registration or event of a callback makes an end of it. -/
structure Kept (P : FaultWorld n → Prop) : Prop where
  emit : ∀ {w}, P w → ∀ e, P (w.emit e)
  assign : ∀ {w}, P w → ∀ s : FaultSys n, s.faultCount = w.sys.faultCount →
    (∀ j, (s.registry j).state = (w.fault j).state ∨ (s.registry j).state = .idle) →
    P { w with sys := s }
  register : ∀ {w}, P w → ∀ config, P (w.register config)

theorem Kept.modify (hP : Kept P) (hw : P w) (i : Fin n) (g : Fault → Fault)
    (hg : (g (w.fault i)).state = (w.fault i).state ∨ (g (w.fault i)).state = .idle) :
    P (w.modify i g) := by
  refine hP.assign hw _ rfl fun j => ?_
  by_cases hj : j = i
  · subst hj
    dsimp only
    rw [Function.update_self]
    exact hg
  · dsimp only
    rw [Function.update_of_ne hj]
    exact Or.inl rfl

theorem Kept.toIdle (hP : Kept P) (hw : P w) (i : Fin n) : P (w.toIdle i) :=
  hP.emit (hP.modify hw i _ (Or.inr rfl)) _

theorem Kept.maskClearActive (hP : Kept P) (hw : P w) (i : Fin n) : P (w.maskClearActive i) :=
  hP.assign hw _ rfl fun _ => Or.inl rfl

theorem Kept.callOnRecover (hP : Kept P) (hr : ∀ w, P w → P (onRecover w)) (hw : P w)
    (i : Fin n) : P (w.callOnRecover i onRecover) := by
  unfold FaultWorld.callOnRecover
  split
  · exact hw
  · exact hr _ (hP.emit hw _)

/-- What holds when `detect` has been called holds when the clear is over. -/
theorem Kept.clear (hP : Kept P) (hr : ∀ w, P w → P (onRecover w))
    (hs : (w.fault i).state = .active) (hasked : P (detect w)) (result : Bool) :
    P (faultClear w (some i) detect result onRecover) := by
  cases result with
  | true =>
      rw [faultClear_refuses hs]
      exact hP.emit (hP.emit hasked _) _
  | false =>
      rw [faultClear_recovers hs]
      have hclear : P (clearWorld w i detect) := hP.emit (hP.emit hasked _) _
      exact hP.toIdle (hP.maskClearActive (hP.callOnRecover hr hclear i) i) i

theorem Kept.historyClear (hP : Kept P) (hw : P w) (handle : Option (Fin n)) :
    P (w.historyClear handle) := by
  cases handle with
  | none => exact hw
  | some i =>
      have hflag : P (w.modify i fun f => { f with hasEverTriggered := false }) :=
        hP.modify hw i _ (Or.inl rfl)
      have hmask : P (faultHistoryClear w (some i)) :=
        hP.assign hflag _ rfl fun _ => Or.inl rfl
      exact hP.emit hmask _

theorem Kept.historyClearAll (hP : Kept P) (hw : P w) : P w.historyClearAll := by
  have hflags : P (faultHistoryClearAll w) := by
    refine hP.assign hw _ rfl fun j => Or.inl ?_
    dsimp only
    split
    · rfl
    · rfl
  exact hP.emit hflags _

/-- **A callback keeps it up.** -/
theorem Kept.run (hP : Kept P) (script : Script) (hw : P w) : P (runScript script w) := by
  induction script generalizing w with
  | done => exact hw
  | historyClear name rest ih => exact ih (hP.historyClear hw _)
  | historyClearAll rest ih => exact ih (hP.historyClearAll hw)
  | register config rest ih => exact ih (hP.register hw config)
  | clear name detect result onRecover rest ihd ihr ihrest =>
      refine ihrest ?_
      cases w.handle name with
      | none => exact hw
      | some i =>
          by_cases hs : (w.fault i).state = .active
          · exact hP.clear (fun _ h => ihr h) hs (ihd hw) result
          · rw [faultClear_inactive hs]
            exact hw

theorem runScript_next {call rest : Script} (hc : nextCall c = some (call, rest)) :
    runScript c w = runScript rest (runScript call w) := by
  cases c with
  | done => exact absurd hc (by simp [nextCall])
  | clear | historyClear | historyClearAll | register =>
      obtain ⟨rfl, rfl⟩ := Prod.mk.inj (Option.some.inj hc)
      rfl

/-- **What holds when the callback at a point is through holds when the outer one is.** -/
theorem Inside.kept {c₀ : Script} {w₀ : FaultWorld n} (hP : Kept P) (h : Inside c₀ w₀ c w)
    (hw : P (runScript c w)) : P (runScript c₀ w₀) := by
  induction h with
  | here => exact hw
  | next before split ih =>
      rw [runScript_next split] at ih
      exact ih hw
  | @detect k detect onRecover rest result w i before handle active ih =>
      -- the clear goes on, and after it the script it belongs to
      refine ih (hP.run rest ?_)
      rw [handle]
      exact hP.clear (fun _ h => hP.run onRecover h) active hw result
  | @onRecover k detect onRecover rest w i before handle active given ih =>
      refine ih (hP.run rest ?_)
      rw [handle, faultClear_recovers active]
      unfold FaultWorld.callOnRecover
      rw [if_neg given]
      exact hP.toIdle (hP.maskClearActive hw i) i

/-- The callback at a point comes to its end. -/
theorem Inside.finish {c₀ : Script} {w₀ : FaultWorld n} (h : Inside c₀ w₀ c w) :
    Inside c₀ w₀ .done (runScript c w) := by
  induction c generalizing w with
  | done => exact h
  | clear k detect result onRecover rest ihd ihr ih => exact ih (h.next rfl)
  | historyClear k rest ih => exact ih (h.next rfl)
  | historyClearAll rest ih => exact ih (h.next rfl)
  | register config rest ih => exact ih (h.next rfl)

/-! ## What an update keeps up -/

/-- The steps of a fault into `ACTIVE` and `RECOVERING` make no end of it either. -/
structure KeptInUpdate (P : FaultWorld n → Prop) : Prop where
  script : Kept P
  setState : ∀ {w}, P w → ∀ i s, P (w.setState i s)

namespace KeptInUpdate

/-- A visit that triggers, from the end of `on_fault` on. -/
theorem triggered (hP : KeptInUpdate P) (hw : P (action (enterFault w i detect))) :
    P (faultUpdateIdle w i now detect true action) := by
  unfold faultUpdateIdle
  dsimp only
  rw [if_pos rfl]
  have hprinted := fun fmt args => hP.script.emit hw (.uprint ⟨fmt, args⟩)
  split
  · exact hP.setState (hP.script.modify (hprinted _ _) i _ (Or.inl rfl)) i _
  · exact hP.setState (hprinted _ _) i _

/-- A visit of an idle fault, from the end of `detect` on. -/
theorem idle (hP : KeptInUpdate P) (ha : ∀ w, P w → P (action w)) (hasked : P (detect w)) :
    P (faultUpdateIdle w i now detect result action) := by
  have hanswered : P (w.callDetect i detect result) := hP.script.emit hasked _
  cases result with
  | false => exact hanswered
  | true =>
      -- the counter, the flag and the two masks, and then the call
      have hcount := hP.script.modify hanswered i
        (fun f => { f with triggerCount := f.triggerCount + 1 }) (Or.inl rfl)
      have hflag := hP.script.modify hcount i (fun f => { f with hasEverTriggered := true })
        (Or.inl rfl)
      have hactive : P (FaultWorld.maskSetActive _ i) :=
        hP.script.assign hflag _ rfl fun _ => Or.inl rfl
      have hnoted : P ((w.callDetect i detect true).noteTrigger i) :=
        hP.script.assign hactive _ rfl fun _ => Or.inl rfl
      exact hP.triggered (ha _ (hP.script.emit hnoted _))

/-- A visit that asks again, from the end of `detect` on. -/
theorem rechecked (hP : KeptInUpdate P) (ha : ∀ w, P w → P (action w))
    (hdue : (simpleTimerHasElapsed (w.fault i).recoveryTimer elapsedNow).1 = true)
    (hasked : P (detect (polledWorld w i elapsedNow))) :
    P (faultUpdateRecovering w i elapsedNow now detect result action) := by
  have hanswered : P ((polledWorld w i elapsedNow).callDetect i detect result) :=
    hP.script.emit hasked _
  have hprinted := fun fmt args => hP.script.emit hanswered (.uprint ⟨fmt, args⟩)
  cases result with
  | true =>
      rw [faultUpdateRecovering_extends hdue]
      exact hP.script.modify (hprinted _ _) i _ (Or.inl rfl)
  | false =>
      rw [faultUpdateRecovering_ends hdue]
      have hcooldown : P (cooldownWorld w i elapsedNow detect) :=
        hP.script.maskClearActive (hprinted _ _) i
      exact hP.script.toIdle (hP.script.callOnRecover ha hcooldown i) i

/-- A visit. -/
theorem visit (hP : KeptInUpdate P) (hd : ∀ w, P w → P (detect w)) (ha : ∀ w, P w → P (action w))
    (hw : P w) : P (faultUpdateSlot w i elapsedNow now detect result action) := by
  by_cases hreg : (w.fault i).registered = true
  · cases hs : (w.fault i).state with
    | active =>
        rw [faultUpdateSlot_active hs]
        exact hw
    | idle =>
        rw [faultUpdateSlot_idle hreg hs]
        exact hP.idle ha (hd w hw)
    | recovering =>
        have hpolled : P (polledWorld w i elapsedNow) := hP.script.modify hw i _ (Or.inl rfl)
        rw [faultUpdateSlot_recovering hreg hs]
        by_cases hdue : (simpleTimerHasElapsed (w.fault i).recoveryTimer elapsedNow).1 = true
        · exact hP.rechecked ha hdue (hd _ hpolled)
        · rw [faultUpdateRecovering_waits hdue]
          exact hpolled
  · rw [faultUpdateSlot_unregistered hreg]
    exact hw

theorem loop (hP : KeptInUpdate P) (env : Fin n → SlotEnv) (is : List (Fin n)) (hw : P w) :
    P (faultUpdateLoop env is w) := by
  induction is generalizing w with
  | nil => exact hw
  | cons i is ih =>
      unfold faultUpdateLoop
      split
      · exact ih (hP.visit (fun _ => hP.script.run (env i).detect)
          (fun _ => hP.script.run (env i).action) hw)
      · exact hw

theorem call (hP : KeptInUpdate P) (hw : P w) (op : FaultOp n) : P (faultCall w op) := by
  cases op with
  | register config => exact hP.script.register hw config
  | update env => exact hP.loop env _ hw
  | clear k detect result onRecover =>
      exact hP.script.run (.clear k detect result onRecover .done) hw
  | historyClear k => exact hP.script.historyClear hw _
  | historyClearAll => exact hP.script.historyClearAll hw

/-- **A run keeps it up.** -/
theorem run (hP : KeptInUpdate P) (hw : P w) (ops : List (FaultOp n)) : P (faultRun w ops) := by
  induction ops generalizing w with
  | nil => exact hw
  | cons op ops ih => exact ih (hP.call hw op)

end KeptInUpdate

theorem SlotVisited.kept {env : Fin n → SlotEnv} {is : List (Fin n)} {v : FaultWorld n}
    (hP : KeptInUpdate P) (h : SlotVisited env i v is w)
    (hv : P (faultUpdateSlot v i (env i).elapsedNow (env i).now (runScript (env i).detect)
      (env i).result (runScript (env i).action))) : P (faultUpdateLoop env is w) := by
  induction h with
  | here is counted =>
      unfold faultUpdateLoop
      rw [if_pos counted]
      exact hP.loop env is hv
  | later j is w counted rest ih =>
      unfold faultUpdateLoop
      rw [if_pos counted]
      exact ih

theorem faultRun_append (w : FaultWorld n) (pre post : List (FaultOp n)) :
    faultRun w (pre ++ post) = faultRun (faultRun w pre) post := List.foldl_append

theorem Visited.kept {env : Fin n → SlotEnv} (hP : KeptInUpdate P) (h : Visited ops env i w)
    (hv : P (faultUpdateSlot w i (env i).elapsedNow (env i).now (runScript (env i).detect)
      (env i).result (runScript (env i).action))) : P (faultRun (.init n) ops) := by
  obtain ⟨pre, post, rfl, hvisited⟩ := h.update
  rw [faultRun_append]
  exact hP.run (w := faultUpdate env _) (hvisited.kept hP hv) post

/-- **What holds when an outermost callback is through holds at the end of the run.** -/
theorem Entered.kept (hP : KeptInUpdate P) (h : Entered ops between c w)
    (hw : P (runScript c w)) : P (faultRun (.init n) ops) := by
  cases h with
  | call pre post op c split script =>
      rw [split, faultRun_append]
      -- the call is a script with nothing after it
      refine hP.run (w := faultCall _ op) ?_ post
      cases op with
      | update env => exact absurd script (by simp [FaultOp.script])
      | register | clear | historyClear | historyClearAll =>
          obtain rfl := Option.some.inj script
          exact hw
  | detect env i w visited idle =>
      refine visited.kept hP ?_
      rw [faultUpdateSlot_idle visited.registered idle]
      exact hP.idle (fun _ => hP.script.run (env i).action) hw
  | onFault env i w visited idle found =>
      refine visited.kept hP ?_
      rw [faultUpdateSlot_idle visited.registered idle, found]
      exact hP.triggered hw
  | recheck env i w visited recovering due =>
      refine visited.kept hP ?_
      rw [faultUpdateSlot_recovering visited.registered recovering]
      exact hP.rechecked (fun _ => hP.script.run (env i).action) due hw
  | onRecover env i w visited recovering due gone given =>
      refine visited.kept hP ?_
      rw [gone, faultUpdateSlot_recovering visited.registered recovering,
        faultUpdateRecovering_ends due]
      unfold FaultWorld.callOnRecover
      rw [if_neg given]
      exact hP.script.toIdle hw i

end

end FwCore.Proof
