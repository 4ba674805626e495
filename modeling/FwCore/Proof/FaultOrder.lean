import Mathlib.Logic.Equiv.Defs
import FwCore.Proof.FaultRegistration
import FwCore.Proof.FaultSlots

/-!
# The order of registration does not matter

With callbacks that do not call back into the fault manager, a fault is a machine of its
own, `faultMachine`: what it becomes and what it calls in a step depends on the fault and
on what the step is to it. It does not look at its index. So a registry is as many such
machines side by side (`machines_call`), in whatever order they stand, and two registries
with the same faults in another order do the same.

The masks have no say in this, and need none: they agree with the faults (`MasksOk`).
-/

namespace FwCore.Proof

open FwCore

/-! ## One fault, alone -/

/-- What a step is to one fault. -/
inductive FaultInput where
  | none
  /-- `fault_update`. -/
  | visit (e : SlotEnv)
  /-- `fault_clear`, and what `detect` answers. -/
  | clear (result : Bool)
  /-- `fault_history_clear`, or `fault_history_clear_all`. -/
  | forget
deriving DecidableEq, Repr

/-- What a clear makes of a fault. -/
def clearFault (f : Fault) (result : Bool) : Fault :=
  if f.state = .active then if result then f else { f with state := .idle } else f

/-- The calls in a clear. -/
def clearCalls (f : Fault) (result : Bool) : List FaultCallback :=
  if f.state = .active then if result then [.detect f.cfg.detect true] else recoverCalls f.cfg
  else []

/-- What a step makes of a fault, and the calls in it. -/
def faultMachine (f : Fault) : FaultInput → Fault × List FaultCallback
  | .none => (f, [])
  | .visit e => (slotFault f e, slotCalls f e)
  | .clear result => (clearFault f result, clearCalls f result)
  | .forget => ({ f with hasEverTriggered := false }, [])

/-- Any number of steps. -/
def faultMachineRun (f : Fault) : List FaultInput → Fault × List FaultCallback
  | [] => (f, [])
  | inp :: inps =>
    let r := faultMachine f inp
    let rest := faultMachineRun r.1 inps
    (rest.1, r.2 ++ rest.2)

/-- A fault in another place. -/
def atPlace (f : Fault) (index : UInt8) : Fault := { f with index := index }

theorem triggeredFault_at (f : Fault) (now : UInt64) (a : UInt8) :
    triggeredFault (atPlace f a) now = atPlace (triggeredFault f now) a := by
  unfold triggeredFault atPlace
  dsimp only
  split <;> rfl

theorem slotFault_at (f : Fault) (e : SlotEnv) (a : UInt8) :
    slotFault (atPlace f a) e = atPlace (slotFault f e) a := by
  have hstate : (atPlace f a).state = f.state := rfl
  unfold slotFault
  rw [hstate]
  cases f.state with
  | idle =>
      dsimp only
      split
      · exact triggeredFault_at f e.now a
      · rfl
  | active => rfl
  | recovering =>
      have htimer : (atPlace f a).recoveryTimer = f.recoveryTimer := rfl
      dsimp only
      rw [htimer]
      split
      · split <;> rfl
      · rfl

theorem clearFault_at (f : Fault) (result : Bool) (a : UInt8) :
    clearFault (atPlace f a) result = atPlace (clearFault f result) a := by
  have hstate : (atPlace f a).state = f.state := rfl
  unfold clearFault
  rw [hstate]
  split
  · split <;> rfl
  · rfl

/-- **A fault does not look at its index.** -/
theorem faultMachine_at (f : Fault) (inp : FaultInput) (a : UInt8) :
    faultMachine (atPlace f a) inp = (atPlace (faultMachine f inp).1 a, (faultMachine f inp).2) := by
  cases inp with
  | none => rfl
  | visit e => exact Prod.ext (slotFault_at f e a) rfl
  | clear result => exact Prod.ext (clearFault_at f result a) rfl
  | forget => rfl

theorem faultMachine_registered (f : Fault) (inp : FaultInput) :
    (faultMachine f inp).1.registered = f.registered := by
  cases inp with
  | none => rfl
  | visit e =>
      show (slotFault f e).registered = _
      unfold slotFault triggeredFault
      dsimp only
      repeat' split
      all_goals rfl
  | clear result =>
      show (clearFault f result).registered = _
      unfold clearFault
      repeat' split
      all_goals rfl
  | forget => rfl

/-! ## The calls, fault by fault -/

section

variable {n : Nat} {i j : Fin n} {w : FaultWorld n}

/-- What `fault_clear` does, to the fault it is called for. -/
theorem faultClear_touched (w : FaultWorld n) (i : Fin n) (result : Bool) :
    ∃ E, Touched i (clearFault (w.fault i) result) E w
        (faultClear w (some i) (runScript .done) result (runScript .done))
      ∧ callsAt i E = clearCalls (w.fault i) result ∧ ∀ j, j ≠ i → NoneOf j E := by
  unfold clearFault clearCalls
  by_cases hs : (w.fault i).state = .active
  · rw [if_pos hs, if_pos hs]
    cases result with
    | true =>
        obtain ⟨call, h⟩ := faultClear_refused hs
        refine ⟨_, h, ?_, fun j hj => ?_⟩
        · simp [callsAt, callAt]
        · simp [NoneOf, detectAt, stepAt, Ne.symm hj]
    | false =>
        obtain ⟨call, mask, h⟩ := faultClear_done hs
        exact ⟨_, h, recoverEvents_calls i _ call mask, fun j hj => recoverEvents_none _ call mask hj⟩
  · rw [if_neg hs, if_neg hs, faultClear_inactive hs]
    exact ⟨[], Touched.refl i w, rfl, fun j _ => by simp [NoneOf]⟩

theorem historyClearAll_heard (hi : i.val < w.sys.faultCount) :
    Heard i { w.fault i with hasEverTriggered := false } [] w w.historyClearAll where
  count := rfl
  handles := rfl
  fault := historyClearAll_fault w hi
  trace := ⟨[.historyClearAll], rfl, rfl⟩

end

/-! ## One program, several orders -/

/-- The clock readings and the answer of `detect` at one fault, in one update. -/
structure FaultReading where
  elapsedNow : UInt64
  now : UInt64
  result : Bool
deriving DecidableEq, Repr

/-- Its callbacks do not call back. -/
def FaultReading.env (r : FaultReading) : SlotEnv := ⟨r.elapsedNow, r.now, .done, r.result, .done⟩

/-- A call of a program that knows its `m` faults by number, wherever they are; `none` is `NULL`. -/
inductive SharedOp (m : Nat) where
  | update (reading : Fin m → FaultReading)
  | clear (handle : Option (Fin m)) (result : Bool)
  | historyClear (handle : Option (Fin m))
  | historyClearAll

section

variable {m n : Nat}

/-- What the call is to fault `k`. -/
def sharedInput (op : SharedOp m) (k : Fin m) : FaultInput :=
  match op with
  | .update reading => .visit (reading k).env
  | .clear handle result => if some k = handle then .clear result else .none
  | .historyClear handle => if some k = handle then .forget else .none
  | .historyClearAll => .forget

/-- When the handle of a fault was returned; there is none with the number `m`. -/
def handleName (σ : Equiv.Perm (Fin m)) (handle : Option (Fin m)) : Nat :=
  handle.elim m fun k => (σ k).val

/-- The call, where fault `k` is in place `σ k`. -/
def sharedCall (n : Nat) (σ : Equiv.Perm (Fin m)) : SharedOp m → FaultOp n
  | .update reading => .update fun j =>
    if h : j.val < m then (reading (σ.symm ⟨j.val, h⟩)).env else ⟨0, 0, .done, false, .done⟩
  | .clear handle result => .clear (handleName σ handle) .done result .done
  | .historyClear handle => .historyClear (handleName σ handle)
  | .historyClearAll => .historyClearAll

/-- The registry of these faults, where fault `k` is in place `σ k`. -/
def registerOrder (n : Nat) (cs : Fin m → FaultConfig) (σ : Equiv.Perm (Fin m)) : FaultWorld n :=
  registerAll (FaultWorld.init n) ((List.ofFn fun p => cs (σ.symm p)).map some)

/-- Register the faults in this order, and run the program. -/
def orderRun (n : Nat) (cs : Fin m → FaultConfig) (σ : Equiv.Perm (Fin m))
    (ops : List (SharedOp m)) : FaultWorld n :=
  faultRun (registerOrder n cs σ) (ops.map (sharedCall n σ))

theorem sharedCall_quiet (σ : Equiv.Perm (Fin m)) (op : SharedOp m) :
    Quiet (sharedCall n σ op) := by
  cases op with
  | update reading =>
      intro j
      dsimp only
      split
      · exact ⟨rfl, rfl⟩
      · exact ⟨rfl, rfl⟩
  | clear handle result => exact ⟨rfl, rfl⟩
  | historyClear handle => trivial
  | historyClearAll => trivial

/-- Fault `k` is in place `σ k`, is `f k`, and has made these calls. -/
structure Machines (hm : m ≤ n) (σ : Equiv.Perm (Fin m)) (f : Fin m → Fault)
    (calls : Fin m → List FaultCallback) (w : FaultWorld n) : Prop where
  count : w.sys.faultCount = m
  handle : ∀ h, w.handle (handleName σ h) = h.map fun k => (σ k).castLE hm
  fault : ∀ k, w.fault ((σ k).castLE hm) = atPlace (f k) (UInt8.ofNat (σ k).val)
  registered : ∀ k, (f k).registered = true
  calls : ∀ k, callsAt ((σ k).castLE hm) w.trace = calls k

variable {hm : m ≤ n} {σ : Equiv.Perm (Fin m)} {f : Fin m → Fault}
  {calls : Fin m → List FaultCallback} {w v : FaultWorld n}

/-- What a step does is known if it is known what it does to each fault. -/
theorem Machines.step (h : Machines hm σ f calls w) (inp : Fin m → FaultInput)
    (hcount : v.sys.faultCount = w.sys.faultCount) (hhandles : v.handles = w.handles)
    (hheard : ∀ k, Heard ((σ k).castLE hm) (faultMachine (w.fault ((σ k).castLE hm)) (inp k)).1
      (faultMachine (w.fault ((σ k).castLE hm)) (inp k)).2 w v) :
    Machines hm σ (fun k => (faultMachine (f k) (inp k)).1)
      (fun k => calls k ++ (faultMachine (f k) (inp k)).2) v where
  count := hcount.trans h.count
  handle := by
    unfold FaultWorld.handle
    rw [hhandles]
    exact h.handle
  fault := by
    intro k
    rw [(hheard k).fault, h.fault k, faultMachine_at]
  registered := by
    intro k
    rw [faultMachine_registered]
    exact h.registered k
  calls := by
    intro k
    rw [(hheard k).callsAt, h.calls k, h.fault k, faultMachine_at]

/-- A step at one fault only. -/
theorem heard_of_touched {k : Fin m} {E : List (FaultEvent n)} {g : Fault} {inp : FaultInput}
    (ht : Touched ((σ k).castLE hm) g E w v)
    (hg : faultMachine (w.fault ((σ k).castLE hm)) inp = (g, callsAt ((σ k).castLE hm) E))
    (hE : ∀ j, j ≠ (σ k).castLE hm → NoneOf j E) (k' : Fin m) :
    Heard ((σ k').castLE hm)
      (faultMachine (w.fault ((σ k').castLE hm)) (if some k' = some k then inp else .none)).1
      (faultMachine (w.fault ((σ k').castLE hm)) (if some k' = some k then inp else .none)).2
      w v := by
  by_cases hk : k' = k
  · subst hk
    rw [if_pos rfl, hg]
    exact ht.heard
  · have hne : (σ k').castLE hm ≠ (σ k).castLE hm := by
      intro he
      have hval : (σ k').val = (σ k).val := congrArg (fun j : Fin n => j.val) he
      exact hk (σ.injective (Fin.ext hval))
    rw [if_neg fun he => hk (Option.some.inj he)]
    exact ht.unheard hne (hE _ hne)

/-- **A registry is as many machines, side by side.** -/
theorem Machines.call (h : Machines hm σ f calls w) (op : SharedOp m) :
    Machines hm σ (fun k => (faultMachine (f k) (sharedInput op k)).1)
      (fun k => calls k ++ (faultMachine (f k) (sharedInput op k)).2)
      (faultCall w (sharedCall n σ op)) := by
  have hbelow : ∀ p : Fin m, (p.castLE hm).val < w.sys.faultCount := by
    intro p
    rw [h.count]
    exact p.isLt
  have hquiet := sharedCall_quiet (n := n) σ op
  cases op with
  | update reading =>
      obtain ⟨hcount, hhandles⟩ := faultUpdateLoop_frame hquiet (List.finRange n) w
      refine h.step _ hcount hhandles fun k => ?_
      have hreg : (w.fault ((σ k).castLE hm)).registered = true := by
        rw [h.fault k]
        exact h.registered k
      have hheard := faultUpdate_heard hquiet (hbelow (σ k)) hreg
      have hlt : ((σ k).castLE hm).val < m := (σ k).isLt
      have hplace : σ.symm ⟨((σ k).castLE hm).val, hlt⟩ = k := σ.symm_apply_apply k
      rw [dif_pos hlt, hplace] at hheard
      exact hheard
  | clear handle result =>
      have hcall : faultCall w (sharedCall n σ (.clear handle result))
          = faultClear w (handle.map fun k => (σ k).castLE hm) (runScript .done) result
            (runScript .done) := by
        show faultClear w (w.handle (handleName σ handle)) _ _ _ = _
        rw [h.handle handle]
      rw [hcall]
      cases handle with
      | none => exact h.step _ rfl rfl fun k => Heard.refl _ w
      | some k =>
          obtain ⟨E, ht, hcalls, hE⟩ := faultClear_touched w ((σ k).castLE hm) result
          refine h.step _ ht.count ht.handles (heard_of_touched ht ?_ hE)
          rw [hcalls]
          rfl
  | historyClear handle =>
      have hcall : faultCall w (sharedCall n σ (.historyClear handle))
          = w.historyClear (handle.map fun k => (σ k).castLE hm) := by
        show w.historyClear (w.handle (handleName σ handle)) = _
        rw [h.handle handle]
      rw [hcall]
      cases handle with
      | none => exact h.step _ rfl rfl fun k => Heard.refl _ w
      | some k =>
          have ht := historyClear_touched w ((σ k).castLE hm)
          refine h.step _ ht.count ht.handles (heard_of_touched ht rfl ?_)
          intro j _
          simp [NoneOf, detectAt, stepAt]
  | historyClearAll =>
      exact h.step _ rfl rfl fun k => historyClearAll_heard (hbelow (σ k))

/-- What the program is to fault `k`. -/
def sharedInputs (ops : List (SharedOp m)) (k : Fin m) : List FaultInput :=
  ops.map fun op => sharedInput op k

theorem Machines.run (ops : List (SharedOp m)) (h : Machines hm σ f calls w) :
    Machines hm σ (fun k => (faultMachineRun (f k) (sharedInputs ops k)).1)
      (fun k => calls k ++ (faultMachineRun (f k) (sharedInputs ops k)).2)
      (faultRun w (ops.map (sharedCall n σ))) := by
  induction ops generalizing w f calls with
  | nil =>
      have hcalls : (fun k => calls k ++ []) = calls := funext fun k => List.append_nil (calls k)
      show Machines hm σ f (fun k => calls k ++ []) w
      rw [hcalls]
      exact h
  | cons op ops ih =>
      have hrest := ih (h.call op)
      have hcalls : (fun k => calls k ++ (faultMachineRun (f k) (sharedInputs (op :: ops) k)).2)
          = fun k => calls k ++ (faultMachine (f k) (sharedInput op k)).2
            ++ (faultMachineRun (faultMachine (f k) (sharedInput op k)).1
              (sharedInputs ops k)).2 := by
        funext k
        exact (List.append_assoc _ _ _).symm
      rw [hcalls]
      exact hrest

/-! ## Two registries -/

/-- After the registrations, fault `k` is new. -/
theorem machines_register (hm : m ≤ n) {cs : Fin m → FaultConfig} (hcs : ∀ k, Checked (cs k))
    (σ : Equiv.Perm (Fin m)) :
    Machines hm σ (fun k => Fault.zeroed.register (cs k) 0) (fun _ => [])
      (registerOrder n cs σ) := by
  have hlen : (List.ofFn fun p => cs (σ.symm p)).length = m := List.length_ofFn
  have hchecked : ∀ c ∈ List.ofFn fun p => cs (σ.symm p), Checked c := by
    intro c hc
    obtain ⟨p, rfl⟩ := List.mem_ofFn.mp hc
    exact hcs (σ.symm p)
  have hreg := registered_all n ((List.ofFn fun p => cs (σ.symm p)).map some)
  rw [acceptedConfigs_all hchecked (hlen.trans_le hm)] at hreg
  have hcount : (registerOrder n cs σ).sys.faultCount = m := hreg.count.trans hlen
  have horder : HandlesInOrder (registerOrder n cs σ) :=
    (handlesInOrder_init n).all _ hchecked (by
      show 0 + _ ≤ n
      rw [hlen]
      omega)
  refine ⟨hcount, fun h => ?_, fun k => ?_, fun _ => rfl, fun k => ?_⟩
  · cases h with
    | none =>
        show (registerOrder n cs σ).handles.getD m none = none
        rw [List.getD_eq_default _ _ (by rw [horder.length, hcount])]
    | some k => exact horder.handle (σ k).val _ (by rw [hcount]; exact (σ k).isLt)
  · refine hreg.fault ((σ k).castLE hm) (cs k) ?_
    have hlt : ((σ k).castLE hm).val < m := (σ k).isLt
    rw [List.getElem?_ofFn, dif_pos hlt]
    exact congrArg (fun k => some (cs k)) (σ.symm_apply_apply k)
  · show callsAt _ (registerAll _ _).trace = []
    rw [hreg.trace]
    rfl

theorem machines_order (hm : m ≤ n) {cs : Fin m → FaultConfig} (hcs : ∀ k, Checked (cs k))
    (σ : Equiv.Perm (Fin m)) (ops : List (SharedOp m)) :
    Machines hm σ
      (fun k => (faultMachineRun (Fault.zeroed.register (cs k) 0) (sharedInputs ops k)).1)
      (fun k => (faultMachineRun (Fault.zeroed.register (cs k) 0) (sharedInputs ops k)).2)
      (orderRun n cs σ ops) := (machines_register hm hcs σ).run ops

/-- The masks agree with the faults, as after any program. -/
theorem masksOk_order (hn : n ≤ 32) (cs : Fin m → FaultConfig) (σ : Equiv.Perm (Fin m))
    (ops : List (SharedOp m)) : MasksOk none (orderRun n cs σ ops) := by
  refine faultRun_ok hn ?_ _
  rw [registerOrder, registerAll_run]
  exact faultRun_ok hn (init_ok n) _

/-- The bits of fault `k`. -/
theorem Machines.bits (h : Machines hm σ f calls w) (hw : MasksOk none w) (k : Fin m) :
    w.sys.activeMask.getLsbD (σ k).val = decide ((f k).state ≠ .idle)
      ∧ w.sys.historyMask.getLsbD (σ k).val = (f k).hasEverTriggered := by
  have hlt : ((σ k).castLE hm).val < w.sys.faultCount := by
    rw [h.count]
    exact (σ k).isLt
  have hactive := hw.active ((σ k).castLE hm) (by simp)
  have hhistory := hw.history ((σ k).castLE hm)
  rw [h.fault k] at hactive hhistory
  constructor
  · rw [Bool.eq_iff_iff, decide_eq_true_iff]
    exact hactive.trans ⟨fun hb => hb.2, fun hs => ⟨hlt, hs⟩⟩
  · rw [Bool.eq_iff_iff]
    exact hhistory.trans ⟨fun hb => hb.2, fun hs => ⟨hlt, hs⟩⟩

/-- The other bits. -/
theorem Machines.noBits (h : Machines hm σ f calls w) (hw : MasksOk none w) {b : Nat} (hb : m ≤ b) :
    w.sys.activeMask.getLsbD b = false ∧ w.sys.historyMask.getLsbD b = false := by
  by_cases hbn : b < n
  · have hno : ¬b < w.sys.faultCount := by
      rw [h.count]
      exact Nat.not_lt.mpr hb
    constructor
    · exact Bool.eq_false_iff.mpr fun ht => hno ((hw.active ⟨b, hbn⟩ (by simp)).mp ht).1
    · exact Bool.eq_false_iff.mpr fun ht => hno ((hw.history ⟨b, hbn⟩).mp ht).1
  · exact hw.beyond b (Nat.not_lt.mp hbn)

/-- Two faults that differ in their place, if at all. -/
structure SameFault (f g : Fault) : Prop where
  cfg : g.cfg = f.cfg
  state : g.state = f.state
  triggerCount : g.triggerCount = f.triggerCount
  hasEverTriggered : g.hasEverTriggered = f.hasEverTriggered
  recoveryTimer : g.recoveryTimer = f.recoveryTimer

/--
**Faults do not depend on the order they are registered in.**

For any accepted configurations, as many as there is room for, any permutation `σ` of them,
and any program over both registries, fault `k` of the one being fault `σ k` of the other:
afterwards, and so after every step, the two are the same but for their place and have made
the same calls, and the masks of one registry are those of the other, bit `k` of the one
being bit `σ k` of the other.
-/
theorem fault_orderIndependent (n m : Nat) (hm : m ≤ n) (hn : n ≤ 32) (cs : Fin m → FaultConfig)
    (hcs : ∀ k, Checked (cs k)) (σ : Equiv.Perm (Fin m)) (ops : List (SharedOp m)) :
    let w := orderRun n cs (Equiv.refl (Fin m)) ops
    let v := orderRun n cs σ ops
    (∀ k, SameFault (w.fault (k.castLE hm)) (v.fault ((σ k).castLE hm))
      ∧ callsAt ((σ k).castLE hm) v.trace = callsAt (k.castLE hm) w.trace)
    ∧ (∀ k : Fin m, v.sys.activeMask.getLsbD (σ k).val = w.sys.activeMask.getLsbD k.val
      ∧ v.sys.historyMask.getLsbD (σ k).val = w.sys.historyMask.getLsbD k.val)
    ∧ ∀ b, m ≤ b → (v.sys.activeMask.getLsbD b = false ∧ v.sys.historyMask.getLsbD b = false)
      ∧ w.sys.activeMask.getLsbD b = false ∧ w.sys.historyMask.getLsbD b = false := by
  intro w v
  have hw : Machines hm (Equiv.refl (Fin m)) _ _ w := machines_order hm hcs (Equiv.refl (Fin m)) ops
  have hv : Machines hm σ _ _ v := machines_order hm hcs σ ops
  have hmw : MasksOk none w := masksOk_order hn cs (Equiv.refl (Fin m)) ops
  have hmv : MasksOk none v := masksOk_order hn cs σ ops
  refine ⟨fun k => ⟨?_, (hv.calls k).trans (hw.calls k).symm⟩, fun k => ?_, fun b hb => ?_⟩
  · have hk := hw.fault k
    rw [Equiv.refl_apply] at hk
    rw [hk, hv.fault k]
    exact ⟨rfl, rfl, rfl, rfl, rfl⟩
  · obtain ⟨ha, hh⟩ := hv.bits hmv k
    obtain ⟨ha', hh'⟩ := hw.bits hmw k
    exact ⟨ha.trans ha'.symm, hh.trans hh'.symm⟩
  · exact ⟨hv.noBits hmv hb, hw.noBits hmw hb⟩

end

/-- A latched fault and one with a cooldown. -/
def twoConfigs : Fin 2 → FaultConfig
  | 0 => ⟨none, some 1, some 2, some 3, 0⟩
  | 1 => ⟨none, some 4, some 5, none, 500⟩

/-- Both trigger, and then both are cleared, which only the latched one heeds. -/
def twoOps : List (SharedOp 2) :=
  .update (fun _ => ⟨0, 0, true⟩) :: (List.finRange 2).map fun k => .clear (some k) false

/-- Fault 1 is away from idle, in place 1 or in place 0. -/
theorem fault_orderIndependent_swap :
    let w := orderRun 3 twoConfigs (Equiv.refl (Fin 2)) twoOps
    let v := orderRun 3 twoConfigs (Equiv.swap 0 1) twoOps
    w.sys.activeMask = 2 ∧ v.sys.activeMask = 1
    ∧ ∀ k : Fin 2, v.sys.activeMask.getLsbD (Equiv.swap 0 1 k).val
      = w.sys.activeMask.getLsbD k.val :=
  ⟨by decide, by decide, fun k => ((fault_orderIndependent 3 2 (by decide) (by decide) twoConfigs
    (by decide) (Equiv.swap 0 1) twoOps).2.1 k).1⟩

end FwCore.Proof
