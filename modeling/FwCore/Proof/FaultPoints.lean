import FwCore.Proof.FaultMasks

/-!
# Where the callbacks of a run are

A callback runs between two statements of the function that calls it, and what it finds is
the world of that moment: the visit or the clear it belongs to has been made in part, and so,
perhaps, have those around it. `Entered` lists the callbacks of the outermost calls, with the
world each begins in, and `Inside` leads from there into the callbacks of the clears they
make, as deep as these nest.

`PointOk` is what holds at all of these points. At most one fault is in the middle of a
transition that its mask shows and its state does not, or the reverse, and that is the one
`fault_update` visits: it triggers and is still `IDLE`, or its cooldown is over and it is
still `RECOVERING`. A clear writes the mask and the state together.
-/

namespace FwCore.Proof

open FwCore Lib

section

variable {n : Nat}

/-! ## The points of a script -/

/-- The first call of a script, and the others. -/
def nextCall : Script → Option (Script × Script)
  | .done => none
  | .clear k detect result onRecover rest => some (.clear k detect result onRecover .done, rest)
  | .historyClear k rest => some (.historyClear k .done, rest)
  | .historyClearAll rest => some (.historyClearAll .done, rest)
  | .register config rest => some (.register config .done, rest)

/-- The world in which `fault_clear` looks for `on_recover`: `detect` has said false. -/
def clearWorld (w : FaultWorld n) (i : Fin n) (detect : FaultWorld n → FaultWorld n) :
    FaultWorld n :=
  let w := w.callDetect i detect false
  w.print "[FAULT] '%s' cleared manually\r\n" [w.nameArg i]

/-- `on_recover` has been called, and has done nothing yet. -/
def enterRecover (w : FaultWorld n) (i : Fin n) : FaultWorld n :=
  w.emit (.onRecover i (w.fault i).cfg.onRecover w.sys.activeMask)

/--
A callback that makes the calls `c₀` from `w₀` on comes to a point, in itself or in a callback
of one of its clears, where the calls `c` are to be made in `w`.
-/
inductive Inside (c₀ : Script) (w₀ : FaultWorld n) : Script → FaultWorld n → Prop where
  | here : Inside c₀ w₀ c₀ w₀
  | next {c call rest : Script} {w : FaultWorld n} (before : Inside c₀ w₀ c w)
      (split : nextCall c = some (call, rest)) : Inside c₀ w₀ rest (runScript call w)
  | detect {k : Nat} {detect onRecover rest : Script} {result : Bool} {w : FaultWorld n}
      {i : Fin n} (before : Inside c₀ w₀ (.clear k detect result onRecover rest) w)
      (handle : w.handle k = some i) (active : (w.fault i).state = .active) :
      Inside c₀ w₀ detect w
  | onRecover {k : Nat} {detect onRecover rest : Script} {w : FaultWorld n} {i : Fin n}
      (before : Inside c₀ w₀ (.clear k detect false onRecover rest) w)
      (handle : w.handle k = some i) (active : (w.fault i).state = .active)
      (given : ((clearWorld w i (runScript detect)).fault i).cfg.onRecover ≠ none) :
      Inside c₀ w₀ onRecover (enterRecover (clearWorld w i (runScript detect)) i)

/-! ## The points of a run -/

/-- An outermost call that is not `fault_update`. -/
def FaultOp.script : FaultOp n → Option Script
  | .register config => some (.register config .done)
  | .update _ => none
  | .clear k detect result onRecover => some (.clear k detect result onRecover .done)
  | .historyClear k => some (.historyClear k .done)
  | .historyClearAll => some (.historyClearAll .done)

/-- The loop of `fault_update`, in world `w` with the given entries to go, gets to `i` in `v`. -/
inductive SlotVisited (env : Fin n → SlotEnv) (i : Fin n) (v : FaultWorld n) :
    List (Fin n) → FaultWorld n → Prop where
  | here (is : List (Fin n)) (counted : i.val < v.sys.faultCount) :
      SlotVisited env i v (i :: is) v
  | later (j : Fin n) (is : List (Fin n)) (w : FaultWorld n) (counted : j.val < w.sys.faultCount)
      (rest : SlotVisited env i v is (faultUpdateSlot w j (env j).elapsedNow (env j).now
        (runScript (env j).detect) (env j).result (runScript (env j).action))) :
      SlotVisited env i v (j :: is) w

/-- A `fault_update` of the program visits fault `i`, which is registered, in world `w`. -/
structure Visited (ops : List (FaultOp n)) (env : Fin n → SlotEnv) (i : Fin n)
    (w : FaultWorld n) : Prop where
  update : ∃ pre post, ops = pre ++ .update env :: post
    ∧ SlotVisited env i w (List.finRange n) (faultRun (.init n) pre)
  registered : (w.fault i).registered = true

/-- The timer of the fault has been asked. -/
def polledWorld (w : FaultWorld n) (i : Fin n) (elapsedNow : UInt64) : FaultWorld n :=
  w.modify i (fun f => { f with
    recoveryTimer := (simpleTimerHasElapsed (w.fault i).recoveryTimer elapsedNow).2 })

/-- `on_fault` has been called, and has done nothing yet. -/
def enterFault (w : FaultWorld n) (i : Fin n) (detect : FaultWorld n → FaultWorld n) :
    FaultWorld n :=
  let w := (w.callDetect i detect true).noteTrigger i
  w.emit (.onFault i (w.fault i).cfg.onFault)

/--
A callback of an outermost call begins, to make the calls `c` in `w`; a call that has no
callbacks is here as one that has made none yet. `between` is the fault whose mask and state
are apart meanwhile.
-/
inductive Entered (ops : List (FaultOp n)) :
    (between : Option (Fin n)) → Script → FaultWorld n → Prop where
  | call (pre post : List (FaultOp n)) (op : FaultOp n) (c : Script)
      (split : ops = pre ++ op :: post) (script : FaultOp.script op = some c) :
      Entered ops none c (faultRun (.init n) pre)
  | detect (env : Fin n → SlotEnv) (i : Fin n) (w : FaultWorld n) (visited : Visited ops env i w)
      (idle : (w.fault i).state = .idle) :
      Entered ops none (env i).detect w
  | onFault (env : Fin n → SlotEnv) (i : Fin n) (w : FaultWorld n) (visited : Visited ops env i w)
      (idle : (w.fault i).state = .idle) (found : (env i).result = true) :
      Entered ops (some i) (env i).action (enterFault w i (runScript (env i).detect))
  | recheck (env : Fin n → SlotEnv) (i : Fin n) (w : FaultWorld n) (visited : Visited ops env i w)
      (recovering : (w.fault i).state = .recovering)
      (due : (simpleTimerHasElapsed (w.fault i).recoveryTimer (env i).elapsedNow).1 = true) :
      Entered ops none (env i).detect (polledWorld w i (env i).elapsedNow)
  | onRecover (env : Fin n → SlotEnv) (i : Fin n) (w : FaultWorld n)
      (visited : Visited ops env i w) (recovering : (w.fault i).state = .recovering)
      (due : (simpleTimerHasElapsed (w.fault i).recoveryTimer (env i).elapsedNow).1 = true)
      (gone : (env i).result = false)
      (given : ((cooldownWorld w i (env i).elapsedNow
        (runScript (env i).detect)).fault i).cfg.onRecover ≠ none) :
      Entered ops (some i) (env i).action
        (enterRecover (cooldownWorld w i (env i).elapsedNow (runScript (env i).detect)) i)

/-- A point of a run of the program, at any depth. -/
def Reached (ops : List (FaultOp n)) (between : Option (Fin n)) (c : Script) (w : FaultWorld n) :
    Prop := ∃ c₀ w₀, Entered ops between c₀ w₀ ∧ Inside c₀ w₀ c w

variable {ops : List (FaultOp n)} {between : Option (Fin n)} {i : Fin n} {c : Script}
  {w w' : FaultWorld n}

/-! ## What holds at every point -/

/-- The bit of a fault whose mask and state are apart is set while it is idle, and not after. -/
structure PointOk (between : Option (Fin n)) (w : FaultWorld n) : Prop where
  masks : MasksOk between w
  apart : ∀ k, between = some k →
    (w.sys.activeMask.getLsbD k.val = true ↔ (w.fault k).state = .idle)

theorem PointOk.emit (h : PointOk between w) (e : FaultEvent n) : PointOk between (w.emit e) :=
  ⟨(sameMasks_emit w e).ok h.masks, h.apart⟩

theorem PointOk.run (hn : n ≤ 32) (h : PointOk between w) (script : Script) :
    PointOk between (runScript script w) ∧ Keeps w (runScript script w) := by
  obtain ⟨hm, hk⟩ := runScript_safe hn script between w h.masks
  refine ⟨⟨hm, fun k hbetween => ?_⟩, hk⟩
  obtain ⟨hreg, hs⟩ := h.masks.exempt k hbetween
  rw [hk.bit k hreg hs, hk.state k hreg hs]
  exact h.apart k hbetween

theorem PointOk.clearWorld (hn : n ≤ 32) (h : PointOk between w) (i : Fin n) (detect : Script) :
    PointOk between (clearWorld w i (runScript detect))
      ∧ Keeps w (clearWorld w i (runScript detect)) := by
  obtain ⟨hasked, hkeeps⟩ := h.run hn detect
  refine ⟨(hasked.emit _).emit _, ?_⟩
  exact (hkeeps.trans (sameMasks_emit _ _).keeps).trans (sameMasks_emit _ _).keeps

/-- **What holds where a callback begins holds at every point in it.** -/
theorem Inside.ok {c₀ : Script} {w₀ : FaultWorld n} (hn : n ≤ 32) (h : Inside c₀ w₀ c w)
    (hw : PointOk between w₀) : PointOk between w ∧ Keeps w₀ w := by
  induction h with
  | here => exact ⟨hw, Keeps.refl w₀⟩
  | next _ _ ih =>
      obtain ⟨hok, hkeeps⟩ := ih
      obtain ⟨hok', hkeeps'⟩ := hok.run hn _
      exact ⟨hok', hkeeps.trans hkeeps'⟩
  | detect _ _ _ ih => exact ih
  | @onRecover k detect onRecover rest w i _ _ _ _ ih =>
      obtain ⟨hok, hkeeps⟩ := ih
      obtain ⟨hok', hkeeps'⟩ := hok.clearWorld hn i detect
      exact ⟨hok'.emit _, (hkeeps.trans hkeeps').trans (sameMasks_emit _ _).keeps⟩

/-- In a run and between the visits of an update the masks agree with all faults. -/
theorem pointOk_between (hw : MasksOk none w) : PointOk none w :=
  ⟨hw, fun _ h => absurd h (by simp)⟩

theorem SlotVisited.ok (hn : n ≤ 32) {env : Fin n → SlotEnv} {is : List (Fin n)}
    {v : FaultWorld n} (h : SlotVisited env i v is w) (hw : MasksOk none w) :
    MasksOk none v ∧ i.val < v.sys.faultCount := by
  induction h with
  | here is counted => exact ⟨hw, counted⟩
  | later j is w counted rest ih =>
      exact ih (faultUpdateSlot_ok hn (runScript_safe hn (env j).detect)
        (runScript_safe hn (env j).action) (env j).elapsedNow (env j).now (env j).result hw
        counted)

theorem Visited.ok (hn : n ≤ 32) {env : Fin n → SlotEnv} (h : Visited ops env i w) :
    MasksOk none w ∧ i.val < w.sys.faultCount := by
  obtain ⟨pre, post, _, hvisited⟩ := h.update
  exact hvisited.ok hn (faultRun_ok hn (init_ok n) pre)

/-- Where `on_fault` is called the bit is set, and the state is not. -/
theorem enterFault_ok (hn : n ≤ 32) (hw : MasksOk none w) (hi : i.val < w.sys.faultCount)
    (hs : (w.fault i).state = .idle) (detect : Script) :
    PointOk (some i) (enterFault w i (runScript detect)) := by
  obtain ⟨hasked, hkeeps⟩ := runScript_safe hn detect none w hw
  have hidle : ((runScript detect w).fault i).state = .idle :=
    (hkeeps.state i hi (by rw [hs]; simp)).trans hs
  obtain ⟨hm, hstate, hbit⟩ := noteTrigger_leaves hn
    ((sameMasks_emit _ (.detect i (w.fault i).cfg.detect true)).ok hasked)
    (Nat.lt_of_lt_of_le hi hkeeps.count) hidle
  refine ⟨(sameMasks_emit _ _).ok hm, fun k hk => ?_⟩
  obtain rfl := Option.some.inj hk
  exact iff_of_true hbit hstate

/-- The timer has no part in it. -/
theorem polledWorld_ok (hw : MasksOk none w) (i : Fin n) (elapsedNow : UInt64) :
    MasksOk none (polledWorld w i elapsedNow) := by
  have hsame : SameMasks w (polledWorld w i elapsedNow) :=
    sameMasks_modify w i fun _ => ⟨rfl, rfl, rfl⟩
  exact hsame.ok hw

/-- Where the cooldown calls `on_recover` the bit is clear, and the state is not. -/
theorem enterCooldown_ok (hn : n ≤ 32) (hw : MasksOk none w) (hi : i.val < w.sys.faultCount)
    (hs : (w.fault i).state = .recovering) (elapsedNow : UInt64) (detect : Script) :
    PointOk (some i) (enterRecover (cooldownWorld w i elapsedNow (runScript detect)) i)
      ∧ (cooldownWorld w i elapsedNow (runScript detect)).sys.activeMask.getLsbD i.val
        = false := by
  obtain ⟨hm, hoff⟩ := cooldownWorld_ok (runScript_safe hn detect) elapsedNow hw hi hs
  have hpolled : ((polledWorld w i elapsedNow).fault i).state = .recovering := by
    unfold polledWorld
    rw [FaultWorld.modify_self]
    exact hs
  obtain ⟨_, hkeeps⟩ := runScript_safe hn detect none _ (polledWorld_ok hw i elapsedNow)
  have hstate : ((cooldownWorld w i elapsedNow (runScript detect)).fault i).state = .recovering :=
    (hkeeps.state i hi (by rw [hpolled]; simp)).trans hpolled
  refine ⟨⟨(sameMasks_emit _ _).ok hm, fun k hk => ?_⟩, hoff⟩
  obtain rfl := Option.some.inj hk
  refine iff_of_false ?_ ?_
  · unfold enterRecover
    rw [FaultWorld.emit_sys, hoff]
    simp
  · unfold enterRecover
    rw [FaultWorld.emit_fault, hstate]
    simp

theorem Entered.ok (hn : n ≤ 32) (h : Entered ops between c w) : PointOk between w := by
  cases h with
  | call pre post op c split script => exact pointOk_between (faultRun_ok hn (init_ok n) pre)
  | detect env i w visited idle => exact pointOk_between (visited.ok hn).1
  | onFault env i w visited idle found =>
      obtain ⟨hw, hi⟩ := visited.ok hn
      exact enterFault_ok hn hw hi idle (env i).detect
  | recheck env i w visited recovering due =>
      exact pointOk_between (polledWorld_ok (visited.ok hn).1 i (env i).elapsedNow)
  | onRecover env i w visited recovering due gone given =>
      obtain ⟨hw, hi⟩ := visited.ok hn
      exact (enterCooldown_ok hn hw hi recovering _ (env i).detect).1

/-- **What holds at every point of a run.** -/
theorem Reached.ok (hn : n ≤ 32) (h : Reached ops between c w) : PointOk between w := by
  obtain ⟨_, _, hentered, hinside⟩ := h
  exact (hinside.ok hn (hentered.ok hn)).1

end

end FwCore.Proof
