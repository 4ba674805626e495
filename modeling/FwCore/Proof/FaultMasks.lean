import FwCore.Core.Fault

/-!
# The masks agree with the faults

Between calls, bit `i` of `active_mask` says whether fault `i` is away from
`FAULT_STATE_IDLE`, and bit `i` of `history_mask` whether it ever triggered. While
a callback of `fault_update` runs, that is false of one fault: its mask has been
written and its state not yet, or the reverse. `MasksOk ex` is the invariant with
that one fault, `ex`, left out.

Why nothing can go wrong meanwhile is `Keeps`. The fault left out is never
`FAULT_STATE_ACTIVE`, and the calls a callback can make touch the state and the
active bit of an `ACTIVE` fault only. So whatever a callback does, the fault is
found as it was left, and the update can finish what it began.
-/

namespace FwCore.Proof

open FwCore Lib

section

variable {n : Nat} {ex : Option (Fin n)} {w w' : FaultWorld n}

/-- The masks agree with the faults, apart from the active bit of `ex`. -/
structure MasksOk (ex : Option (Fin n)) (w : FaultWorld n) : Prop where
  /-- A fault's index is its place in the registry. -/
  index : ∀ i : Fin n, i.val < w.sys.faultCount → (w.fault i).index.toNat = i.val
  /-- Bit `i` of `active_mask` is set iff fault `i` is not idle. -/
  active : ∀ i : Fin n, ex ≠ some i →
    (w.sys.activeMask.getLsbD i.val = true ↔ i.val < w.sys.faultCount ∧ (w.fault i).state ≠ .idle)
  /-- Bit `i` of `history_mask` is set iff fault `i` has triggered. -/
  history : ∀ i : Fin n,
    (w.sys.historyMask.getLsbD i.val = true
      ↔ i.val < w.sys.faultCount ∧ (w.fault i).hasEverTriggered = true)
  /-- No bit is set past the end of the registry. -/
  beyond : ∀ b, n ≤ b → w.sys.activeMask.getLsbD b = false ∧ w.sys.historyMask.getLsbD b = false
  /-- A handle is of a registered fault. -/
  handles : ∀ i : Fin n, some i ∈ w.handles → i.val < w.sys.faultCount
  /-- The fault left out is registered, and not `ACTIVE`. -/
  exempt : ∀ i, ex = some i → i.val < w.sys.faultCount ∧ (w.fault i).state ≠ .active

/-- What a callback leaves alone: the state and the active bit of any fault that is not `ACTIVE`. -/
structure Keeps (w w' : FaultWorld n) : Prop where
  count : w.sys.faultCount ≤ w'.sys.faultCount
  state : ∀ i : Fin n, i.val < w.sys.faultCount → (w.fault i).state ≠ .active →
    (w'.fault i).state = (w.fault i).state
  bit : ∀ i : Fin n, i.val < w.sys.faultCount → (w.fault i).state ≠ .active →
    w'.sys.activeMask.getLsbD i.val = w.sys.activeMask.getLsbD i.val

theorem Keeps.refl (w : FaultWorld n) : Keeps w w :=
  ⟨Nat.le_refl _, fun _ _ _ => rfl, fun _ _ _ => rfl⟩

theorem Keeps.trans {w₁ w₂ w₃ : FaultWorld n} (h₁ : Keeps w₁ w₂) (h₂ : Keeps w₂ w₃) :
    Keeps w₁ w₃ where
  count := Nat.le_trans h₁.count h₂.count
  state := by
    intro i hi hs
    have hs' := h₁.state i hi hs
    rw [h₂.state i (Nat.lt_of_lt_of_le hi h₁.count) (by rw [hs']; exact hs), hs']
  bit := by
    intro i hi hs
    have hs' := h₁.state i hi hs
    rw [h₂.bit i (Nat.lt_of_lt_of_le hi h₁.count) (by rw [hs']; exact hs), h₁.bit i hi hs]

/-- A piece of program that callbacks are made of. -/
def Safe (body : FaultWorld n → FaultWorld n) : Prop :=
  ∀ ex w, MasksOk ex w → MasksOk ex (body w) ∧ Keeps w (body w)

/-! ## Changes that the invariant does not see -/

/-- Two worlds that differ in nothing the invariant speaks of. -/
structure SameMasks (w w' : FaultWorld n) : Prop where
  count : w'.sys.faultCount = w.sys.faultCount
  active : w'.sys.activeMask = w.sys.activeMask
  history : w'.sys.historyMask = w.sys.historyMask
  handles : w'.handles = w.handles
  fault : ∀ i, (w'.fault i).index = (w.fault i).index ∧ (w'.fault i).state = (w.fault i).state
    ∧ (w'.fault i).hasEverTriggered = (w.fault i).hasEverTriggered

theorem SameMasks.ok (h : SameMasks w w') (hw : MasksOk ex w) : MasksOk ex w' where
  index := by
    intro i hi
    rw [h.count] at hi
    rw [(h.fault i).1]
    exact hw.index i hi
  active := by
    intro i hi
    rw [h.active, h.count, (h.fault i).2.1]
    exact hw.active i hi
  history := by
    intro i
    rw [h.history, h.count, (h.fault i).2.2]
    exact hw.history i
  beyond := by
    rw [h.active, h.history]
    exact hw.beyond
  handles := by
    rw [h.handles, h.count]
    exact hw.handles
  exempt := by
    intro i hi
    rw [h.count, (h.fault i).2.1]
    exact hw.exempt i hi

theorem SameMasks.keeps (h : SameMasks w w') : Keeps w w' where
  count := Nat.le_of_eq h.count.symm
  state := fun i _ _ => (h.fault i).2.1
  bit := fun i _ _ => by rw [h.active]

theorem sameMasks_emit (w : FaultWorld n) (e : FaultEvent n) : SameMasks w (w.emit e) :=
  ⟨rfl, rfl, rfl, rfl, fun _ => ⟨rfl, rfl, rfl⟩⟩

/-- Assigning to fields of a fault other than its index, state and history. -/
theorem sameMasks_modify (w : FaultWorld n) (i : Fin n) {g : Fault → Fault}
    (hg : ∀ f, (g f).index = f.index ∧ (g f).state = f.state
      ∧ (g f).hasEverTriggered = f.hasEverTriggered) : SameMasks w (w.modify i g) where
  count := rfl
  active := rfl
  history := rfl
  handles := rfl
  fault := by
    intro j
    by_cases hj : j = i
    · subst hj
      rw [FaultWorld.modify_self]
      exact hg _
    · rw [FaultWorld.modify_ne w i hj]
      exact ⟨rfl, rfl, rfl⟩

theorem sameMasks_print (w : FaultWorld n) (fmt : String) (args : List UprintArg) :
    SameMasks w (w.print fmt args) := sameMasks_emit w _

theorem sameMasks_setupTimer (w : FaultWorld n) (i : Fin n) (now : UInt64) :
    SameMasks w (w.setupTimer i now) := sameMasks_modify w i (fun _ => ⟨rfl, rfl, rfl⟩)

/-! ## Calling out -/

section

variable {body : FaultWorld n → FaultWorld n} (hb : Safe body) (i : Fin n) (hw : MasksOk ex w)
include hb hw

theorem callDetect_safe (result : Bool) :
    MasksOk ex (w.callDetect i body result) ∧ Keeps w (w.callDetect i body result) := by
  obtain ⟨h, hk⟩ := hb ex w hw
  have hs := sameMasks_emit (body w) (.detect i (w.fault i).cfg.detect result)
  exact ⟨hs.ok h, hk.trans hs.keeps⟩

theorem callOnFault_safe : MasksOk ex (w.callOnFault i body) ∧ Keeps w (w.callOnFault i body) := by
  have hs := sameMasks_emit w (.onFault i (w.fault i).cfg.onFault)
  obtain ⟨h, hk⟩ := hb ex _ (hs.ok hw)
  exact ⟨h, hs.keeps.trans hk⟩

theorem callOnRecover_safe :
    MasksOk ex (w.callOnRecover i body) ∧ Keeps w (w.callOnRecover i body) := by
  rw [FaultWorld.callOnRecover]
  cases (w.fault i).cfg.onRecover with
  | none => exact ⟨hw, Keeps.refl w⟩
  | some fn =>
      have hs := sameMasks_emit w (.onRecover i (some fn) w.sys.activeMask)
      obtain ⟨h, hk⟩ := hb ex _ (hs.ok hw)
      exact ⟨h, hs.keeps.trans hk⟩

end

/-! ## Changes at one fault -/

/-- Two worlds that differ, as far as the invariant goes, at fault `i` only. -/
structure OnlyAt (i : Fin n) (w w' : FaultWorld n) : Prop where
  count : w'.sys.faultCount = w.sys.faultCount
  handles : w'.handles = w.handles
  index : ∀ j, (w'.fault j).index = (w.fault j).index
  active : ∀ b, b ≠ i.val → w'.sys.activeMask.getLsbD b = w.sys.activeMask.getLsbD b
  history : ∀ b, b ≠ i.val → w'.sys.historyMask.getLsbD b = w.sys.historyMask.getLsbD b
  fault : ∀ j, j ≠ i → (w'.fault j).state = (w.fault j).state
    ∧ (w'.fault j).hasEverTriggered = (w.fault j).hasEverTriggered

variable {i : Fin n}

theorem OnlyAt.trans {w₁ w₂ w₃ : FaultWorld n} (h₁ : OnlyAt i w₁ w₂) (h₂ : OnlyAt i w₂ w₃) :
    OnlyAt i w₁ w₃ where
  count := h₂.count.trans h₁.count
  handles := h₂.handles.trans h₁.handles
  index := fun j => (h₂.index j).trans (h₁.index j)
  active := fun b hb => (h₂.active b hb).trans (h₁.active b hb)
  history := fun b hb => (h₂.history b hb).trans (h₁.history b hb)
  fault := fun j hj => ⟨(h₂.fault j hj).1.trans (h₁.fault j hj).1,
    (h₂.fault j hj).2.trans (h₁.fault j hj).2⟩

theorem onlyAt_emit (w : FaultWorld n) (e : FaultEvent n) : OnlyAt i w (w.emit e) :=
  ⟨rfl, rfl, fun _ => rfl, fun _ _ => rfl, fun _ _ => rfl, fun _ _ => ⟨rfl, rfl⟩⟩

theorem onlyAt_modify (w : FaultWorld n) (i : Fin n) {g : Fault → Fault}
    (hg : ∀ f, (g f).index = f.index) : OnlyAt i w (w.modify i g) where
  count := rfl
  handles := rfl
  index := by
    intro j
    by_cases hj : j = i
    · subst hj
      rw [FaultWorld.modify_self]
      exact hg _
    · rw [FaultWorld.modify_ne w i hj]
  active := fun _ _ => rfl
  history := fun _ _ => rfl
  fault := by
    intro j hj
    rw [FaultWorld.modify_ne w i hj]
    exact ⟨rfl, rfl⟩

theorem onlyAt_clearActive (h : (w.fault i).index.toNat = i.val) :
    OnlyAt i w (w.maskClearActive i) := by
  refine ⟨rfl, rfl, fun _ => rfl, fun b hb => ?_, fun _ _ => rfl, fun _ _ => ⟨rfl, rfl⟩⟩
  rw [FaultWorld.maskClearActive, h]
  exact clearBit_other _ hb

theorem onlyAt_noteTrigger (h : (w.fault i).index.toNat = i.val) :
    OnlyAt i w (w.noteTrigger i) where
  count := rfl
  handles := rfl
  index := by
    intro j
    by_cases hj : j = i
    · rw [hj, FaultWorld.noteTrigger_self]
    · rw [FaultWorld.noteTrigger_ne w i hj]
  active := by
    intro b hb
    rw [FaultWorld.noteTrigger_active, h]
    exact setBit_other _ hb
  history := by
    intro b hb
    rw [FaultWorld.noteTrigger_history, h]
    exact setBit_other _ hb
  fault := by
    intro j hj
    rw [FaultWorld.noteTrigger_ne w i hj]
    exact ⟨rfl, rfl⟩

theorem onlyAt_clearHistory (h : (w.fault i).index.toNat = i.val) :
    OnlyAt i w (w.maskClearHistory i) := by
  refine ⟨rfl, rfl, fun _ => rfl, fun _ _ => rfl, fun b hb => ?_, fun _ _ => ⟨rfl, rfl⟩⟩
  rw [FaultWorld.maskClearHistory, h]
  exact clearBit_other _ hb

/-- The invariant after a change at fault `i`: it is enough that things are right at `i`. -/
theorem OnlyAt.ok {ex' : Option (Fin n)} (h : OnlyAt i w w') (hw : MasksOk ex w)
    (hi : i.val < w.sys.faultCount) (hex : ∀ j, j ≠ i → (ex' = some j ↔ ex = some j))
    (hstate : ex' = some i → (w'.fault i).state ≠ .active)
    (hactive : ex' ≠ some i →
      (w'.sys.activeMask.getLsbD i.val = true ↔ (w'.fault i).state ≠ .idle))
    (hhistory : w'.sys.historyMask.getLsbD i.val = true ↔ (w'.fault i).hasEverTriggered = true) :
    MasksOk ex' w' where
  index := by
    intro j hj
    rw [h.count] at hj
    rw [h.index j]
    exact hw.index j hj
  active := by
    intro j hj
    by_cases hji : j = i
    · subst hji
      rw [h.count]
      exact (hactive hj).trans ⟨fun hs => ⟨hi, hs⟩, fun hs => hs.2⟩
    · rw [h.active j (fun he => hji (Fin.ext he)), h.count, (h.fault j hji).1]
      exact hw.active j (fun he => hj ((hex j hji).mpr he))
  history := by
    intro j
    by_cases hji : j = i
    · subst hji
      rw [h.count]
      exact hhistory.trans ⟨fun hs => ⟨hi, hs⟩, fun hs => hs.2⟩
    · rw [h.history j (fun he => hji (Fin.ext he)), h.count, (h.fault j hji).2]
      exact hw.history j
  beyond := by
    intro b hb
    have hne : b ≠ i.val := by omega
    rw [h.active b hne, h.history b hne]
    exact hw.beyond b hb
  handles := by
    rw [h.handles, h.count]
    exact hw.handles
  exempt := by
    intro j hj
    by_cases hji : j = i
    · subst hji
      rw [h.count]
      exact ⟨hi, hstate hj⟩
    · rw [h.count, (h.fault j hji).1]
      exact hw.exempt j ((hex j hji).mp hj)

/-- What the history bit of a registered fault says. -/
theorem MasksOk.history_at (hw : MasksOk ex w) (hi : i.val < w.sys.faultCount) :
    w.sys.historyMask.getLsbD i.val = true ↔ (w.fault i).hasEverTriggered = true :=
  (hw.history i).trans ⟨fun h => h.2, fun h => ⟨hi, h⟩⟩

/-- Clearing a fault's active bit leaves that fault out, until its state follows. -/
theorem maskClear_leaves (hw : MasksOk none w) (hi : i.val < w.sys.faultCount)
    (hs : (w.fault i).state ≠ .active) : MasksOk (some i) (w.maskClearActive i) := by
  refine (onlyAt_clearActive (hw.index i hi)).ok hw hi (fun j hj => ?_) (fun _ => hs)
    (fun hno => absurd rfl hno) (hw.history_at hi)
  simp [Ne.symm hj]

/-- A fault that was left out gets the state its bit stands for. -/
theorem settle {s : FaultState} (hw : MasksOk (some i) w)
    (hbit : w.sys.activeMask.getLsbD i.val = true ↔ s ≠ .idle) :
    MasksOk none (w.setState i s) := by
  have hi := (hw.exempt i rfl).1
  have hat : OnlyAt i w (w.setState i s) := onlyAt_modify w i (fun _ => rfl)
  refine hat.ok hw hi (fun j hj => ?_) (fun h => absurd h (by simp)) (fun _ => ?_) ?_
  · simp [Ne.symm hj]
  · rw [FaultWorld.setState, FaultWorld.modify_self]
    exact hbit
  · rw [FaultWorld.setState, FaultWorld.modify_self]
    exact hw.history_at hi

/-- Clearing a fault's active bit and its state together. -/
theorem retire (hw : MasksOk ex w) (hi : i.val < w.sys.faultCount) (hex : ex ≠ some i) :
    OnlyAt i w ((w.maskClearActive i).toIdle i) ∧ MasksOk ex ((w.maskClearActive i).toIdle i) := by
  have hmod : OnlyAt i (w.maskClearActive i) ((w.maskClearActive i).toIdle i) :=
    (onlyAt_modify (w.maskClearActive i) i (g := fun f => { f with state := .idle })
      (fun _ => rfl)).trans (onlyAt_emit _ _)
  have hat := (onlyAt_clearActive (hw.index i hi)).trans hmod
  refine ⟨hat, hat.ok hw hi (fun j _ => Iff.rfl) (fun h => absurd h hex) (fun _ => ?_) ?_⟩
  · have hoff : (w.maskClearActive i).sys.activeMask.getLsbD i.val = false := by
      rw [FaultWorld.maskClearActive, hw.index i hi]
      exact clearBit_self _ _
    rw [FaultWorld.toIdle, FaultWorld.emit_fault, FaultWorld.setState, FaultWorld.modify_self]
    exact ⟨fun hb => absurd (hoff.symm.trans hb) (by simp), fun hs => absurd rfl hs⟩
  · rw [FaultWorld.toIdle, FaultWorld.emit_fault, FaultWorld.setState, FaultWorld.modify_self]
    exact hw.history_at hi

/-! ## The calls a callback can make -/

theorem faultClear_safe {handle : Option (Fin n)} {detect onRecover : FaultWorld n → FaultWorld n}
    (hd : Safe detect) (hr : Safe onRecover) (result : Bool) (hw : MasksOk ex w)
    (hh : ∀ i, handle = some i → i.val < w.sys.faultCount) :
    MasksOk ex (faultClear w handle detect result onRecover)
      ∧ Keeps w (faultClear w handle detect result onRecover) := by
  cases handle with
  | none => exact ⟨hw, Keeps.refl w⟩
  | some i =>
    have hi := hh i rfl
    rw [faultClear]
    split
    · exact ⟨hw, Keeps.refl w⟩
    · rename_i hs
      have hactive : (w.fault i).state = .active := Decidable.not_not.mp hs
      -- the fault being cleared was `ACTIVE`, so it is not the one left out
      have hex : ex ≠ some i := fun he => (hw.exempt i he).2 hactive
      obtain ⟨h₁, hk₁⟩ := callDetect_safe hd i hw result
      dsimp only
      split
      · have hp := sameMasks_print (w.callDetect i detect result)
          "[FAULT] '%s' cleared manually\r\n" [(w.callDetect i detect result).nameArg i]
        obtain ⟨h₂, hk₂⟩ := callOnRecover_safe hr i (hp.ok h₁)
        have hk := (hk₁.trans hp.keeps).trans hk₂
        obtain ⟨hat, h₃⟩ := retire h₂ (Nat.lt_of_lt_of_le hi hk.count) hex
        refine ⟨h₃, Nat.le_trans hk.count (Nat.le_of_eq hat.count.symm), fun j hj hs' => ?_,
          fun j hj hs' => ?_⟩
        · have hji : j ≠ i := fun he => hs' (he ▸ hactive)
          exact (hat.fault j hji).1.trans (hk.state j hj hs')
        · have hji : j ≠ i := fun he => hs' (he ▸ hactive)
          exact (hat.active j (fun he => hji (Fin.ext he))).trans (hk.bit j hj hs')
      · have hp := sameMasks_print (w.callDetect i detect result)
          "[FAULT] '%s' clear ignored — condition still active\r\n"
          [(w.callDetect i detect result).nameArg i]
        exact ⟨hp.ok h₁, hk₁.trans hp.keeps⟩

theorem historyClear_safe {handle : Option (Fin n)} (hw : MasksOk ex w)
    (hh : ∀ i, handle = some i → i.val < w.sys.faultCount) :
    MasksOk ex (w.historyClear handle) ∧ Keeps w (w.historyClear handle) := by
  cases handle with
  | none => exact ⟨hw, Keeps.refl w⟩
  | some i =>
    have hi := hh i rfl
    have hidx : ((w.modify i (fun f => { f with hasEverTriggered := false })).fault i).index.toNat
        = i.val := by
      rw [FaultWorld.modify_self]
      exact hw.index i hi
    have hself : (w.historyClear (some i)).fault i
        = { w.fault i with hasEverTriggered := false } := by
      rw [FaultWorld.historyClear, faultHistoryClear, FaultWorld.emit_fault,
        FaultWorld.maskClearHistory_fault, FaultWorld.modify_self]
    have hmod : OnlyAt i w (w.modify i (fun f => { f with hasEverTriggered := false })) :=
      onlyAt_modify w i (fun _ => rfl)
    have hat : OnlyAt i w (w.historyClear (some i)) :=
      (hmod.trans (onlyAt_clearHistory hidx)).trans (onlyAt_emit _ _)
    refine ⟨hat.ok hw hi (fun _ _ => Iff.rfl) (fun hex => ?_) (fun hex => ?_) ?_, ⟨Nat.le_refl _,
      fun j hj hs => ?_, fun _ _ _ => rfl⟩⟩
    · rw [hself]
      exact (hw.exempt i hex).2
    · rw [hself]
      exact (hw.active i hex).trans ⟨fun h => h.2, fun h => ⟨hi, h⟩⟩
    · have hoff : (w.historyClear (some i)).sys.historyMask.getLsbD i.val = false := by
        rw [FaultWorld.historyClear, faultHistoryClear, FaultWorld.emit_sys,
          FaultWorld.maskClearHistory, hidx]
        exact clearBit_self _ _
      rw [hself, hoff]
    · by_cases hji : j = i
      · subst hji
        rw [hself]
      · exact (hat.fault j hji).1

theorem historyClearAll_safe : Safe (FaultWorld.historyClearAll (n := n)) := by
  intro ex w hw
  -- only the history flags of registered faults differ
  have hfault : ∀ j : Fin n, (w.historyClearAll.fault j).index = (w.fault j).index
      ∧ (w.historyClearAll.fault j).state = (w.fault j).state := by
    intro j
    obtain ⟨flag, hj⟩ := historyClearAll_keeps w j
    rw [hj]
    exact ⟨rfl, rfl⟩
  refine ⟨⟨fun i hi => ?_, fun i hex => ?_, fun i => ?_, fun b hb => ?_, hw.handles,
    fun i hi => ?_⟩, Nat.le_refl _, fun i _ _ => (hfault i).2, fun _ _ _ => rfl⟩
  · rw [(hfault i).1]
    exact hw.index i hi
  · rw [(hfault i).2]
    exact hw.active i hex
  · have hoff : w.historyClearAll.sys.historyMask.getLsbD i.val = false :=
      BitVec.getLsbD_zero
    rw [hoff]
    refine ⟨fun h => absurd h (by simp), fun ⟨hi, h⟩ => ?_⟩
    rw [historyClearAll_fault w hi] at h
    exact absurd h (by simp)
  · exact ⟨(hw.beyond b hb).1, BitVec.getLsbD_zero⟩
  · rw [(hfault i).2]
    exact hw.exempt i hi

/-! ## Registration -/

/-- The world after a registration that failed. -/
def registerRefused (w : FaultWorld n) : FaultWorld n := { w with handles := w.handles ++ [none] }

/-- The world after a registration that succeeded. -/
def registerDone (w : FaultWorld n) (config : FaultConfig) (h : w.sys.faultCount < n) :
    FaultWorld n where
  sys := { w.sys with
    registry := Function.update w.sys.registry ⟨w.sys.faultCount, h⟩
      ((w.sys.registry ⟨w.sys.faultCount, h⟩).register config w.sys.faultCount)
    faultCount := w.sys.faultCount + 1
    count_le := h }
  handles := w.handles ++ [some ⟨w.sys.faultCount, h⟩]
  trace := w.trace

/-- What `fault_register` can do. -/
theorem register_cases (w : FaultWorld n) (config : Option FaultConfig) :
    w.register config = registerRefused w
      ∨ ∃ (c : FaultConfig) (h : w.sys.faultCount < n), w.register config = registerDone w c h := by
  unfold FaultWorld.register faultRegister
  cases config with
  | none => exact Or.inl rfl
  | some config =>
      dsimp only
      split
      · exact Or.inl rfl
      · split
        · exact Or.inl rfl
        · split
          · rename_i h
            exact Or.inr ⟨config, h, rfl⟩
          · exact Or.inl rfl

theorem registerDone_new (config : FaultConfig) (h : w.sys.faultCount < n) :
    (registerDone w config h).fault ⟨w.sys.faultCount, h⟩
      = (w.fault ⟨w.sys.faultCount, h⟩).register config w.sys.faultCount := Function.update_self ..

theorem registerDone_old (config : FaultConfig) (h : w.sys.faultCount < n) {j : Fin n}
    (hj : j.val ≠ w.sys.faultCount) : (registerDone w config h).fault j = w.fault j :=
  Function.update_of_ne (fun he => hj (congrArg Fin.val he)) ..

/-- Handles stay handles of registered faults. -/
theorem registerRefused_handles (hh : ∀ i : Fin n, some i ∈ w.handles → i.val < w.sys.faultCount) :
    ∀ i : Fin n, some i ∈ (registerRefused w).handles → i.val < w.sys.faultCount := by
  intro i hi
  rcases List.mem_append.mp hi with hi | hi
  · exact hh i hi
  · exact absurd hi (by simp)

theorem registerDone_handles (config : FaultConfig) (h : w.sys.faultCount < n)
    (hh : ∀ i : Fin n, some i ∈ w.handles → i.val < w.sys.faultCount) :
    ∀ i : Fin n, some i ∈ (registerDone w config h).handles → i.val < w.sys.faultCount + 1 := by
  intro i hi
  rcases List.mem_append.mp hi with hi | hi
  · exact Nat.lt_succ_of_lt (hh i hi)
  · rw [Option.some.inj (List.mem_singleton.mp hi)]
    exact Nat.lt_succ_self _

theorem registerRefused_safe (hw : MasksOk ex w) :
    MasksOk ex (registerRefused w) ∧ Keeps w (registerRefused w) :=
  ⟨⟨hw.index, hw.active, hw.history, hw.beyond, registerRefused_handles hw.handles, hw.exempt⟩,
    Nat.le_refl _, fun _ _ _ => rfl, fun _ _ _ => rfl⟩

/-- A new fault is idle, and its bits are still clear. -/
theorem registerDone_safe (hn : n ≤ 32) (config : FaultConfig) (h : w.sys.faultCount < n)
    (hw : MasksOk ex w) :
    MasksOk ex (registerDone w config h) ∧ Keeps w (registerDone w config h) := by
  have hbelow : ∀ j : Fin n, j.val < w.sys.faultCount → j.val ≠ w.sys.faultCount :=
    fun j hj => Nat.ne_of_lt hj
  have hcases : ∀ j : Fin n, j = ⟨w.sys.faultCount, h⟩ ∨ j.val ≠ w.sys.faultCount := by
    intro j
    by_cases hj : j.val = w.sys.faultCount
    · exact Or.inl (Fin.ext hj)
    · exact Or.inr hj
  have hiff : ∀ j : Fin n, j.val ≠ w.sys.faultCount →
      (j.val < w.sys.faultCount + 1 ↔ j.val < w.sys.faultCount) := by
    intro j hj
    omega
  refine ⟨⟨fun j hj => ?_, fun j hex => ?_, fun j => ?_, hw.beyond,
    registerDone_handles config h hw.handles, fun j hex => ?_⟩,
    Nat.le_succ _, fun j hj _ => ?_, fun _ _ _ => rfl⟩
  · rcases hcases j with rfl | hne
    · rw [registerDone_new, Fault.register, UInt8.toNat_ofNat']
      exact Nat.mod_eq_of_lt (by omega)
    · rw [registerDone_old config h hne]
      exact hw.index j ((hiff j hne).mp hj)
  · rcases hcases j with rfl | hne
    · rw [registerDone_new]
      exact (hw.active _ hex).trans
        ⟨fun ha => absurd ha.1 (Nat.lt_irrefl _), fun ha => absurd rfl ha.2⟩
    · rw [registerDone_old config h hne]
      exact (hw.active j hex).trans (and_congr_left' (hiff j hne).symm)
  · rcases hcases j with rfl | hne
    · rw [registerDone_new]
      exact (hw.history _).trans
        ⟨fun ha => absurd ha.1 (Nat.lt_irrefl _), fun ha => absurd ha.2 (by simp [Fault.register])⟩
    · rw [registerDone_old config h hne]
      exact (hw.history j).trans (and_congr_left' (hiff j hne).symm)
  · obtain ⟨hj, hs⟩ := hw.exempt j hex
    rw [registerDone_old config h (hbelow j hj)]
    exact ⟨Nat.lt_succ_of_lt hj, hs⟩
  · rw [registerDone_old config h (hbelow j hj)]

theorem register_safe (hn : n ≤ 32) (config : Option FaultConfig) :
    Safe (fun w : FaultWorld n => w.register config) := by
  intro ex w hw
  dsimp only
  rcases register_cases w config with hr | ⟨c, h, hr⟩
  · rw [hr]
    exact registerRefused_safe hw
  · rw [hr]
    exact registerDone_safe hn c h hw

/-- Every handle a program can name is of a registered fault. -/
theorem handle_registered (hh : ∀ i : Fin n, some i ∈ w.handles → i.val < w.sys.faultCount)
    {k : Nat} : ∀ i, w.handle k = some i → i.val < w.sys.faultCount := by
  intro i hi
  refine hh i ?_
  rw [FaultWorld.handle, List.getD_eq_getElem?_getD] at hi
  cases hk : w.handles[k]? with
  | none =>
      rw [hk] at hi
      exact absurd hi (by simp)
  | some h =>
      rw [hk] at hi
      obtain rfl : h = some i := hi
      exact List.mem_of_getElem? hk

/-- **Whatever a callback is made of is safe**, however deep it nests. -/
theorem runScript_safe (hn : n ≤ 32) (script : Script) : Safe (runScript (n := n) script) := by
  induction script with
  | done => exact fun ex w hw => ⟨hw, Keeps.refl w⟩
  | clear k detect result onRecover rest ihd ihr ihrest =>
      intro ex w hw
      obtain ⟨h₁, hk₁⟩ := faultClear_safe ihd ihr result hw (handle_registered hw.handles)
      obtain ⟨h₂, hk₂⟩ := ihrest ex _ h₁
      exact ⟨h₂, hk₁.trans hk₂⟩
  | historyClear k rest ih =>
      intro ex w hw
      obtain ⟨h₁, hk₁⟩ := historyClear_safe hw (handle_registered hw.handles)
      obtain ⟨h₂, hk₂⟩ := ih ex _ h₁
      exact ⟨h₂, hk₁.trans hk₂⟩
  | historyClearAll rest ih =>
      intro ex w hw
      obtain ⟨h₁, hk₁⟩ := historyClearAll_safe ex w hw
      obtain ⟨h₂, hk₂⟩ := ih ex _ h₁
      exact ⟨h₂, hk₁.trans hk₂⟩
  | register config rest ih =>
      intro ex w hw
      obtain ⟨h₁, hk₁⟩ := register_safe hn config ex w hw
      obtain ⟨h₂, hk₂⟩ := ih ex _ h₁
      exact ⟨h₂, hk₁.trans hk₂⟩

/-! ## The update -/

/-- What a trigger writes before `on_fault`: history, and both bits, with the state to follow. -/
theorem noteTrigger_leaves (hn : n ≤ 32) (hw : MasksOk none w) (hi : i.val < w.sys.faultCount)
    (hs : (w.fault i).state = .idle) :
    MasksOk (some i) (w.noteTrigger i) ∧ ((w.noteTrigger i).fault i).state = .idle
      ∧ (w.noteTrigger i).sys.activeMask.getLsbD i.val = true := by
  have hi32 : i.val < 32 := Nat.lt_of_lt_of_le i.isLt hn
  have hidx := hw.index i hi
  have hstate : ((w.noteTrigger i).fault i).state = .idle := by
    rw [FaultWorld.noteTrigger_self]
    exact hs
  have hactive : (w.noteTrigger i).sys.activeMask.getLsbD i.val = true := by
    rw [FaultWorld.noteTrigger_active, hidx]
    exact setBit_self _ hi32
  have hhistory : (w.noteTrigger i).sys.historyMask.getLsbD i.val = true := by
    rw [FaultWorld.noteTrigger_history, hidx]
    exact setBit_self _ hi32
  refine ⟨(onlyAt_noteTrigger hidx).ok hw hi (fun j hj => ?_) (fun _ => ?_)
    (fun hno => absurd rfl hno) ?_, hstate, hactive⟩
  · simp [Ne.symm hj]
  · rw [hstate]
    simp
  · rw [hhistory, FaultWorld.noteTrigger_self]

theorem faultUpdateIdle_ok (hn : n ≤ 32) {detect onFault : FaultWorld n → FaultWorld n}
    (hd : Safe detect) (ha : Safe onFault) (now : UInt64) (result : Bool) (hw : MasksOk none w)
    (hi : i.val < w.sys.faultCount) (hs : (w.fault i).state = .idle) :
    MasksOk none (faultUpdateIdle w i now detect result onFault) := by
  obtain ⟨h₁, hk₁⟩ := callDetect_safe hd i hw result
  have hi₁ := Nat.lt_of_lt_of_le hi hk₁.count
  have hs₁ := (hk₁.state i hi (by rw [hs]; simp)).trans hs
  rw [faultUpdateIdle]
  cases result with
  | false => exact h₁
  | true =>
      obtain ⟨h₂, hs₂, hbit⟩ := noteTrigger_leaves hn h₁ hi₁ hs₁
      obtain ⟨h₃, hk₃⟩ := callOnFault_safe ha i h₂
      -- the bit is set and stays set until the state catches up
      have hbit₃ := (hk₃.bit i hi₁ (by rw [hs₂]; simp)).trans hbit
      dsimp only
      rw [if_pos rfl]
      split
      · refine settle ((sameMasks_setupTimer _ i now).ok ((sameMasks_print _ _ _).ok h₃)) ?_
        exact ⟨fun _ => by simp, fun _ => hbit₃⟩
      · refine settle ((sameMasks_print _ _ _).ok h₃) ?_
        exact ⟨fun _ => by simp, fun _ => hbit₃⟩

/-- The world in which the cooldown branch calls `on_recover`: `detect` has said false. -/
def cooldownWorld (w : FaultWorld n) (i : Fin n) (elapsedNow : UInt64)
    (detect : FaultWorld n → FaultWorld n) : FaultWorld n :=
  let polled := simpleTimerHasElapsed (w.fault i).recoveryTimer elapsedNow
  let w := w.modify i (fun f => { f with recoveryTimer := polled.2 })
  let w := w.callDetect i detect false
  let w := w.print "[FAULT] '%s' recovering\r\n" [w.nameArg i]
  w.maskClearActive i

/-- There the bit is clear, the state is not, and every other bit agrees with its fault. -/
theorem cooldownWorld_ok {detect : FaultWorld n → FaultWorld n} (hd : Safe detect)
    (elapsedNow : UInt64) (hw : MasksOk none w) (hi : i.val < w.sys.faultCount)
    (hs : (w.fault i).state = .recovering) :
    MasksOk (some i) (cooldownWorld w i elapsedNow detect)
      ∧ (cooldownWorld w i elapsedNow detect).sys.activeMask.getLsbD i.val = false := by
  obtain ⟨w₁, hw₁⟩ : ∃ w₁, w₁ = w.modify i (fun f => { f with
      recoveryTimer := (simpleTimerHasElapsed (w.fault i).recoveryTimer elapsedNow).2 }) := ⟨_, rfl⟩
  have hpoll : SameMasks w w₁ := by
    rw [hw₁]
    exact sameMasks_modify w i (fun _ => ⟨rfl, rfl, rfl⟩)
  have hi₁ := Nat.lt_of_lt_of_eq hi hpoll.count.symm
  have hs₁ := (hpoll.fault i).2.1.trans hs
  obtain ⟨h₂, hk₂⟩ := callDetect_safe hd i (hpoll.ok hw) false
  have hi₂ := Nat.lt_of_lt_of_le hi₁ hk₂.count
  -- `detect` cannot take the fault out of `RECOVERING`
  have hs₂ := (hk₂.state i hi₁ (by rw [hs₁]; simp)).trans hs₁
  have h₃ := (sameMasks_print (w₁.callDetect i detect false)
    "[FAULT] '%s' recovering\r\n" [(w₁.callDetect i detect false).nameArg i]).ok h₂
  unfold cooldownWorld
  dsimp only
  rw [← hw₁]
  refine ⟨maskClear_leaves h₃ hi₂ ?_, ?_⟩
  · rw [FaultWorld.print_fault, hs₂]
    simp
  · unfold FaultWorld.maskClearActive
    rw [h₃.index i hi₂]
    exact clearBit_self _ _

theorem faultUpdateRecovering_ok {detect onRecover : FaultWorld n → FaultWorld n}
    (hd : Safe detect) (hr : Safe onRecover) (elapsedNow now : UInt64) (result : Bool)
    (hw : MasksOk none w) (hi : i.val < w.sys.faultCount) (hs : (w.fault i).state = .recovering) :
    MasksOk none (faultUpdateRecovering w i elapsedNow now detect result onRecover) := by
  have hpoll := sameMasks_modify w i (g := fun f => { f with
    recoveryTimer := (simpleTimerHasElapsed (w.fault i).recoveryTimer elapsedNow).2 })
    (fun _ => ⟨rfl, rfl, rfl⟩)
  unfold faultUpdateRecovering
  dsimp only
  split
  · cases result with
    | true =>
        obtain ⟨h₂, _⟩ := callDetect_safe hd i (hpoll.ok hw) true
        exact (sameMasks_setupTimer _ i now).ok ((sameMasks_print _ _ _).ok h₂)
    | false =>
        -- the bit goes first; while `on_recover` runs the fault is `RECOVERING` without it
        obtain ⟨h₄, hoff⟩ := cooldownWorld_ok hd elapsedNow hw hi hs
        obtain ⟨hi₄, hs₄⟩ := h₄.exempt i rfl
        obtain ⟨h₅, hk₅⟩ := callOnRecover_safe hr i h₄
        have hbit : ((cooldownWorld w i elapsedNow detect).callOnRecover i
            onRecover).sys.activeMask.getLsbD i.val = true ↔ FaultState.idle ≠ .idle := by
          rw [hk₅.bit i hi₄ hs₄, hoff]
          simp
        rw [if_neg (by simp)]
        exact (sameMasks_emit _ _).ok (settle h₅ hbit)
  · exact hpoll.ok hw

theorem faultUpdateSlot_ok (hn : n ≤ 32) {detect action : FaultWorld n → FaultWorld n}
    (hd : Safe detect) (ha : Safe action) (elapsedNow now : UInt64) (result : Bool)
    (hw : MasksOk none w) (hi : i.val < w.sys.faultCount) :
    MasksOk none (faultUpdateSlot w i elapsedNow now detect result action) := by
  rw [faultUpdateSlot]
  split
  · exact hw
  · cases hs : (w.fault i).state with
    | idle => exact faultUpdateIdle_ok hn hd ha now result hw hi hs
    | active => exact hw
    | recovering => exact faultUpdateRecovering_ok hd ha elapsedNow now result hw hi hs

/-- The loop looks at `fault_count` anew each time, so a fault registered meanwhile is in it. -/
theorem faultUpdateLoop_ok (hn : n ≤ 32) (env : Fin n → SlotEnv) :
    ∀ (is : List (Fin n)) (w : FaultWorld n), MasksOk none w →
      MasksOk none (faultUpdateLoop env is w)
  | [], _, hw => hw
  | i :: is, w, hw => by
      rw [faultUpdateLoop]
      split
      · rename_i hi
        exact faultUpdateLoop_ok hn env is _ (faultUpdateSlot_ok hn (runScript_safe hn _)
          (runScript_safe hn _) _ _ _ hw hi)
      · exact hw

/-! ## Programs -/

/-- After `fault_init` there is nothing to agree about. -/
theorem init_ok (n : Nat) : MasksOk none (FaultWorld.init n) where
  index := fun _ hi => absurd hi (Nat.not_lt_zero _)
  active := by
    intro i _
    refine ⟨fun h => absurd h ?_, fun h => absurd h.1 (Nat.not_lt_zero _)⟩
    simp [FaultWorld.init, faultInit]
  history := by
    intro i
    refine ⟨fun h => absurd h ?_, fun h => absurd h.1 (Nat.not_lt_zero _)⟩
    simp [FaultWorld.init, faultInit]
  beyond := by
    intro b _
    simp [FaultWorld.init, faultInit]
  handles := by
    intro i hi
    simp [FaultWorld.init] at hi
  exempt := by
    intro i hi
    simp at hi

theorem faultCall_ok (hn : n ≤ 32) (hw : MasksOk none w) (op : FaultOp n) :
    MasksOk none (faultCall w op) := by
  cases op with
  | register config => exact (register_safe hn config none w hw).1
  | update env => exact faultUpdateLoop_ok hn env _ w hw
  | clear k detect result onRecover =>
      exact (faultClear_safe (runScript_safe hn detect) (runScript_safe hn onRecover) result hw
        (handle_registered hw.handles)).1
  | historyClear k => exact (historyClear_safe hw (handle_registered hw.handles)).1
  | historyClearAll => exact (historyClearAll_safe none w hw).1

theorem faultRun_ok (hn : n ≤ 32) (hw : MasksOk none w) (ops : List (FaultOp n)) :
    MasksOk none (faultRun w ops) := by
  induction ops generalizing w with
  | nil => exact hw
  | cons op ops ih => exact ih (faultCall_ok hn hw op)

/-- A mask whose bits stand for a property of the registered faults, bit by bit. -/
theorem mask_bits {m : BitVec 32} {P : Fin n → Prop}
    (hbits : ∀ i : Fin n, m.getLsbD i.val = true ↔ i.val < w.sys.faultCount ∧ P i)
    (hbeyond : ∀ b, n ≤ b → m.getLsbD b = false) (b : Nat) :
    m.getLsbD b = true ↔ ∃ h : b < n, b < w.sys.faultCount ∧ P ⟨b, h⟩ := by
  constructor
  · intro hb
    have hlt : b < n := by
      refine Nat.lt_of_not_le (fun hge => ?_)
      rw [hbeyond b hge] at hb
      exact absurd hb (by simp)
    exact ⟨hlt, (hbits ⟨b, hlt⟩).mp hb⟩
  · intro ⟨hlt, hb⟩
    exact (hbits ⟨b, hlt⟩).mpr hb

/-- The two states away from `IDLE`. -/
theorem ne_idle_iff (s : FaultState) : s ≠ .idle ↔ s = .active ∨ s = .recovering := by
  cases s with
  | idle => simp
  | active => simp
  | recovering => simp

/-- Some fault is away from `IDLE` iff some bit of `active_mask` is set. -/
theorem anyActive_iff (hw : MasksOk none w) (hn : n ≤ 32) :
    faultAnyActive w = true ↔ ∃ i : Fin n, i.val < w.sys.faultCount
      ∧ ((w.fault i).state = .active ∨ (w.fault i).state = .recovering) := by
  rw [faultAnyActive, bne_iff_ne, ne_zero_iff]
  constructor
  · intro ⟨b, _, hb⟩
    obtain ⟨hlt, hc, hs⟩ := (mask_bits (fun i => hw.active i (by simp))
      (fun b hb => (hw.beyond b hb).1) b).mp hb
    exact ⟨⟨b, hlt⟩, hc, (ne_idle_iff _).mp hs⟩
  · intro ⟨i, hc, hs⟩
    exact ⟨i.val, Nat.lt_of_lt_of_le i.isLt hn,
      (hw.active i (by simp)).mpr ⟨hc, (ne_idle_iff _).mpr hs⟩⟩

/--
**The masks agree with the faults whenever an outermost call returns**, whatever the
callbacks do: any calls, nested to any depth, new faults registered during an update
among them.
-/
theorem fault_masks_agree (n : Nat) (hn : n ≤ 32) (ops : List (FaultOp n)) :
    let w := faultRun (FaultWorld.init n) ops
    (∀ b, b < 32 → (w.sys.activeMask.getLsbD b = true
      ↔ ∃ h : b < n, b < w.sys.faultCount ∧ (w.fault ⟨b, h⟩).state ≠ .idle))
    ∧ (∀ b, b < 32 → (w.sys.historyMask.getLsbD b = true
      ↔ ∃ h : b < n, b < w.sys.faultCount ∧ (w.fault ⟨b, h⟩).hasEverTriggered = true))
    ∧ (faultAnyActive w = true ↔ ∃ i : Fin n, i.val < w.sys.faultCount
      ∧ ((w.fault i).state = .active ∨ (w.fault i).state = .recovering)) := by
  intro w
  have hw : MasksOk none w := faultRun_ok hn (init_ok n) ops
  refine ⟨fun b _ => ?_, fun b _ => ?_, anyActive_iff hw hn⟩
  · exact mask_bits (fun i => hw.active i (by simp)) (fun b hb => (hw.beyond b hb).1) b
  · exact mask_bits hw.history (fun b hb => (hw.beyond b hb).2) b

end

/-- A latched fault and one with a cooldown; while the second is handled, the first is cleared. -/
def nestedCalls : List (FaultOp 2) :=
  [.register (some ⟨none, some 1, some 2, some 3, 0⟩),
    .register (some ⟨none, some 4, some 5, none, 500⟩),
    .update (fun i => ⟨0, 0, .done, true,
      if i = 0 then .done else .clear 0 .done false (.historyClear 1 .done) .done⟩)]

theorem fault_masks_agree_nested :
    let w := faultRun (FaultWorld.init 2) nestedCalls
    w.sys.activeMask = 2 ∧ w.sys.historyMask = 1
    ∧ (faultAnyActive w = true ↔ ∃ i : Fin 2, i.val < w.sys.faultCount
      ∧ ((w.fault i).state = .active ∨ (w.fault i).state = .recovering)) :=
  ⟨by decide, by decide, (fault_masks_agree 2 (by decide) nestedCalls).2.2⟩

end FwCore.Proof
