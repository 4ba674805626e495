import FwCore.Proof.FaultRegistration
import FwCore.Proof.UprintCalls

/-!
# The pointers a configuration brings along

`fault_register` looks at `detect` and `on_fault`, and `on_recover` is looked at wherever it
is called. `name` is looked at nowhere, and every message about a fault passes it for a
`%s`. So a configuration is safe to run exactly if it has a name, or is not accepted.

`PointersOk` is what the runs keep: every registered fault has all three, and nothing that
happened went through a null pointer. Callbacks may do what they like.
-/

namespace FwCore.Proof

open FwCore

/-- A function that is called is there, and so is a string that is printed. -/
def NullFree {n : Nat} : FaultEvent n → Prop
  | .detect _ fn _ => fn ≠ none
  | .onFault _ fn => fn ≠ none
  | .onRecover _ fn _ => fn ≠ none
  | .uprint call => Returns call
  | _ => True

/-- The configuration is refused, or has a name. -/
def Named (config : Option FaultConfig) : Prop :=
  ∀ c, config = some c → Checked c → c.name ≠ none

/-- Everything a callback registers is. -/
def ScriptNamed : Script → Prop
  | .done => True
  | .clear _ detect _ onRecover rest =>
    ScriptNamed detect ∧ ScriptNamed onRecover ∧ ScriptNamed rest
  | .historyClear _ rest => ScriptNamed rest
  | .historyClearAll rest => ScriptNamed rest
  | .register config rest => Named config ∧ ScriptNamed rest

/-- A call of the program: one of the calls that act, or the status report. -/
inductive FaultUse (n : Nat) where
  | call (op : FaultOp n)
  | printStatus

/-- Whatever it registers, directly or in a callback, is named. -/
def UseNamed {n : Nat} : FaultUse n → Prop
  | .call (.register config) => Named config
  | .call (.update env) => ∀ i, ScriptNamed (env i).detect ∧ ScriptNamed (env i).action
  | .call (.clear _ detect _ onRecover) => ScriptNamed detect ∧ ScriptNamed onRecover
  | _ => True

section

variable {n : Nat} {w w' : FaultWorld n} {c : Nat} {i : Fin n}

/-- Make a call. -/
def faultUse (w : FaultWorld n) : FaultUse n → FaultWorld n
  | .call op => faultCall w op
  | .printStatus => faultPrintStatus w

/-- Make calls, in order. -/
def faultUses (w : FaultWorld n) (uses : List (FaultUse n)) : FaultWorld n := uses.foldl faultUse w

/-- All that the transitions use of a configuration is there. -/
structure Usable (cfg : FaultConfig) : Prop where
  detect : cfg.detect ≠ none
  onFault : cfg.onFault ≠ none
  name : cfg.name ≠ none

/-- What the runs keep; at least `c` faults are registered. -/
structure PointersOk (c : Nat) (w : FaultWorld n) : Prop where
  count : c ≤ w.sys.faultCount
  usable : ∀ i : Fin n, i.val < w.sys.faultCount → Usable (w.fault i).cfg
  handles : ∀ i : Fin n, some i ∈ w.handles → i.val < w.sys.faultCount
  trace : ∀ e ∈ w.trace, NullFree e

/-- A piece of program that keeps it. -/
def Guarded (body : FaultWorld n → FaultWorld n) : Prop :=
  ∀ c w, PointersOk c w → PointersOk c (body w)

theorem PointersOk.usable_at (h : PointersOk c w) (hi : i.val < c) : Usable (w.fault i).cfg :=
  h.usable i (Nat.lt_of_lt_of_le hi h.count)

/-- As many faults are registered as are. -/
theorem PointersOk.here (h : PointersOk c w) : PointersOk w.sys.faultCount w :=
  { h with count := Nat.le_refl _ }

theorem PointersOk.fewer {c' : Nat} (h : PointersOk c' w) (hc : c ≤ c') : PointersOk c w :=
  { h with count := Nat.le_trans hc h.count }

/-! ## The messages -/

theorem fits_str (s : CStr) : ArgFits (ascii 's') (.str (some s)) := by
  rw [ArgFits, if_pos rfl]
  exact Option.some_ne_none s

theorem fits_unsigned {d : UInt8} (hd : d ≠ ascii 's') (v : UInt32) : ArgFits d (.unsigned v) := by
  rw [ArgFits, if_neg hd]
  exact Option.some_ne_none v

theorem not_fits_null : ¬ArgFits (ascii 's') (.str none) := by
  rw [ArgFits, if_pos rfl]
  exact fun h => h rfl

/-- The name of a fault fits exactly if the fault has one. -/
theorem nameArg_fits : ArgFits (ascii 's') (w.nameArg i) ↔ (w.fault i).cfg.name ≠ none := by
  unfold FaultWorld.nameArg
  cases (w.fault i).cfg.name with
  | none => exact iff_of_false not_fits_null (fun h => h rfl)
  | some name => exact iff_of_true (fits_str name) (Option.some_ne_none name)

/-- A message whose arguments fit. -/
theorem message_nullFree {fmt : String} {args : List UprintArg} {specifiers : List UInt8}
    (hfmt : WellFormed (literalBytes fmt)) (hspec : conversions (literalBytes fmt) = specifiers)
    (hall : List.Forall₂ ArgFits specifiers args) :
    NullFree (n := n) (.uprint ⟨fmt, args⟩) :=
  (returns_iff_fits hfmt hspec hall.length_eq.symm).mpr hall

/-- A message that has the fault's name for its one argument. -/
theorem nameMessage_nullFree {fmt : String} (hfmt : WellFormed (literalBytes fmt))
    (hspec : conversions (literalBytes fmt) = [ascii 's']) (hu : Usable (w.fault i).cfg) :
    NullFree (n := n) (.uprint ⟨fmt, [w.nameArg i]⟩) :=
  message_nullFree hfmt hspec (.cons (nameArg_fits.mpr hu.name) .nil)

/-- The message of a trigger. -/
theorem triggerMessage_nullFree (hu : Usable (w.fault i).cfg) (count : UInt32) :
    NullFree (n := n) (.uprint ⟨"[FAULT] '%s' triggered (#%u)\r\n",
      [w.nameArg i, .unsigned count]⟩) := by
  have hfits : List.Forall₂ ArgFits [ascii 's', ascii 'u'] [w.nameArg i, .unsigned count] :=
    .cons (nameArg_fits.mpr hu.name) (.cons (fits_unsigned (by decide) count) .nil)
  exact message_nullFree (by decide) (by decide) hfits

/-- The message of the status report about one fault has five arguments, the name among them. -/
theorem statusArgs_fit (w : FaultWorld n) (i : Fin n) :
    List.Forall₂ ArgFits [ascii 'u', ascii 's', ascii 's', ascii 'u', ascii 's']
        [.unsigned (w.fault i).index.toUInt32, w.nameArg i,
          .str (some (faultStateName (w.fault i).state)), .unsigned (w.fault i).triggerCount,
          .str (some (faultHistoryName (w.fault i).hasEverTriggered))]
      ↔ (w.fault i).cfg.name ≠ none := by
  have hu : ∀ v, ArgFits (ascii 'u') (.unsigned v) := fits_unsigned (by decide)
  constructor
  · intro hall
    -- the name is the second of the five
    obtain ⟨_, hall⟩ := List.forall₂_cons.mp hall
    exact nameArg_fits.mp (List.forall₂_cons.mp hall).1
  · intro hname
    exact .cons (hu _) (.cons (nameArg_fits.mpr hname) (.cons (fits_str _) (.cons (hu _)
      (.cons (fits_str _) .nil))))

/-! ## What the transitions are made of -/

theorem PointersOk.emit (h : PointersOk c w) {e : FaultEvent n} (he : NullFree e) :
    PointersOk c (w.emit e) where
  count := h.count
  usable := h.usable
  handles := h.handles
  trace := by
    intro e' he'
    rcases List.mem_append.mp he' with hold | hnew
    · exact h.trace e' hold
    · rw [List.mem_singleton.mp hnew]
      exact he

/-- A change that leaves configurations, handles and trace as they are. -/
theorem PointersOk.same (h : PointersOk c w) (hcount : w'.sys.faultCount = w.sys.faultCount)
    (hcfg : ∀ j, (w'.fault j).cfg = (w.fault j).cfg) (hhandles : w'.handles = w.handles)
    (htrace : w'.trace = w.trace) : PointersOk c w' where
  count := by
    rw [hcount]
    exact h.count
  usable := by
    intro j hj
    rw [hcfg j]
    exact h.usable j (hcount ▸ hj)
  handles := by
    rw [hhandles, hcount]
    exact h.handles
  trace := by
    rw [htrace]
    exact h.trace

theorem PointersOk.modify (h : PointersOk c w) (i : Fin n) {g : Fault → Fault}
    (hg : ∀ f, (g f).cfg = f.cfg) : PointersOk c (w.modify i g) := by
  refine h.same rfl (fun j => ?_) rfl rfl
  by_cases hj : j = i
  · subst hj
    rw [FaultWorld.modify_self]
    exact hg _
  · rw [FaultWorld.modify_ne w i hj]

theorem PointersOk.setupTimer (h : PointersOk c w) (i : Fin n) (now : UInt64) :
    PointersOk c (w.setupTimer i now) := h.modify i (fun _ => rfl)

theorem PointersOk.setState (h : PointersOk c w) (i : Fin n) (s : FaultState) :
    PointersOk c (w.setState i s) := h.modify i (fun _ => rfl)

theorem PointersOk.toIdle (h : PointersOk c w) (i : Fin n) : PointersOk c (w.toIdle i) :=
  (h.setState i .idle).emit trivial

theorem PointersOk.maskClearActive (h : PointersOk c w) (i : Fin n) :
    PointersOk c (w.maskClearActive i) := h.same rfl (fun _ => rfl) rfl rfl

theorem PointersOk.maskClearHistory (h : PointersOk c w) (i : Fin n) :
    PointersOk c (w.maskClearHistory i) := h.same rfl (fun _ => rfl) rfl rfl

theorem PointersOk.noteTrigger (h : PointersOk c w) (i : Fin n) :
    PointersOk c (w.noteTrigger i) := by
  refine h.same rfl (fun j => ?_) rfl rfl
  by_cases hj : j = i
  · rw [hj, FaultWorld.noteTrigger_self]
  · rw [FaultWorld.noteTrigger_ne w i hj]

section

variable {body : FaultWorld n → FaultWorld n} (hb : Guarded body) (h : PointersOk c w)
include hb h

theorem callDetect_guarded (hi : i.val < c) (result : Bool) :
    PointersOk c (w.callDetect i body result) :=
  (hb c w h).emit (h.usable_at hi).detect

theorem callOnFault_guarded (hi : i.val < c) : PointersOk c (w.callOnFault i body) :=
  hb c _ (h.emit (h.usable_at hi).onFault)

/-- `on_recover` may be missing, and then it is not called. -/
theorem callOnRecover_guarded (i : Fin n) : PointersOk c (w.callOnRecover i body) := by
  unfold FaultWorld.callOnRecover
  split
  · exact h
  · rename_i hgiven
    exact hb c _ (h.emit (e := .onRecover i (w.fault i).cfg.onRecover w.sys.activeMask) hgiven)

end

/-! ## The transitions -/

theorem faultUpdateIdle_guarded {detect onFault : FaultWorld n → FaultWorld n}
    (hd : Guarded detect) (ho : Guarded onFault) (now : UInt64) (result : Bool)
    (h : PointersOk c w) (hi : i.val < c) :
    PointersOk c (faultUpdateIdle w i now detect result onFault) := by
  have hasked := callDetect_guarded hd h hi result
  have hcalled := callOnFault_guarded ho (hasked.noteTrigger i) hi
  unfold faultUpdateIdle
  dsimp only
  -- the message is about the fault as `on_fault` has left it
  generalize ((w.callDetect i detect result).noteTrigger i).callOnFault i onFault = v at hcalled ⊢
  split
  · have hprinted := hcalled.emit
      (triggerMessage_nullFree (hcalled.usable_at hi) (v.fault i).triggerCount)
    split
    · exact (hprinted.setupTimer i now).setState i .recovering
    · exact hprinted.setState i .active
  · exact hasked

theorem faultUpdateRecovering_guarded {detect onRecover : FaultWorld n → FaultWorld n}
    (hd : Guarded detect) (hr : Guarded onRecover) (elapsedNow now : UInt64) (result : Bool)
    (h : PointersOk c w) (hi : i.val < c) :
    PointersOk c (faultUpdateRecovering w i elapsedNow now detect result onRecover) := by
  have hpolled := h.modify i (g := fun f => { f with
    recoveryTimer := (simpleTimerHasElapsed (w.fault i).recoveryTimer elapsedNow).2 })
    (fun _ => rfl)
  have hasked := callDetect_guarded hd hpolled hi result
  unfold faultUpdateRecovering
  dsimp only
  split
  · split
    · refine PointersOk.setupTimer (hasked.emit ?_) i now
      exact nameMessage_nullFree (by decide) (by decide) (hasked.usable_at hi)
    · refine (callOnRecover_guarded hr (PointersOk.maskClearActive (hasked.emit ?_) i) i).toIdle i
      exact nameMessage_nullFree (by decide) (by decide) (hasked.usable_at hi)
  · exact hpolled

theorem faultClear_guarded {detect onRecover : FaultWorld n → FaultWorld n} (hd : Guarded detect)
    (hr : Guarded onRecover) (handle : Option (Fin n)) (result : Bool) (h : PointersOk c w)
    (hh : ∀ i, handle = some i → i.val < w.sys.faultCount) :
    PointersOk c (faultClear w handle detect result onRecover) := by
  cases handle with
  | none => exact h
  | some i =>
      have hi := hh i rfl
      -- the handle counts among the faults there are now, which may be more than `c`
      have hasked := callDetect_guarded hd h.here hi result
      unfold faultClear
      dsimp only
      split
      · exact h
      · split
        · have hprinted := hasked.emit (e := .uprint ⟨"[FAULT] '%s' cleared manually\r\n",
            [(w.callDetect i detect result).nameArg i]⟩)
            (nameMessage_nullFree (by decide) (by decide) (hasked.usable_at hi))
          exact (((callOnRecover_guarded hr hprinted i).maskClearActive i).toIdle i).fewer h.count
        · refine (hasked.emit ?_).fewer h.count
          exact nameMessage_nullFree (by decide) (by decide) (hasked.usable_at hi)

theorem historyClear_guarded (handle : Option (Fin n)) (h : PointersOk c w) :
    PointersOk c (w.historyClear handle) := by
  cases handle with
  | none => exact h
  | some i =>
      have hflag := h.modify i (g := fun f => { f with hasEverTriggered := false }) (fun _ => rfl)
      exact (hflag.maskClearHistory i).emit (e := .historyClear i) trivial

theorem historyClearAll_guarded : Guarded (FaultWorld.historyClearAll (n := n)) := by
  intro c w h
  have hcfg : ∀ j, (w.historyClearAll.fault j).cfg = (w.fault j).cfg := by
    intro j
    obtain ⟨flag, hj⟩ := historyClearAll_keeps w j
    rw [hj]
  refine ⟨h.count, fun j hj => ?_, h.handles, (h.emit (e := .historyClearAll) trivial).trace⟩
  rw [hcfg j]
  exact h.usable j hj

/-- A registration that is refused, or of a configuration with a name. -/
theorem register_guarded {config : Option FaultConfig} (hn : Named config) (h : PointersOk c w) :
    PointersOk c (w.register config) := by
  have hrefused : PointersOk c (registerRefused w) :=
    ⟨h.count, h.usable, registerRefused_handles h.handles, h.trace⟩
  cases hc : config.filter (fun c => decide (Checked c)) with
  | none =>
      rw [register_unchecked hc]
      exact hrefused
  | some cfg =>
      obtain ⟨rfl, hchecked⟩ := Option.filter_eq_some_iff.mp hc
      have hok : Checked cfg := of_decide_eq_true hchecked
      by_cases hroom : w.sys.faultCount < n
      · rw [register_checked hok hroom]
        refine ⟨Nat.le_succ_of_le h.count, fun j hj => ?_, registerDone_handles cfg hroom h.handles,
          h.trace⟩
        -- the new fault has what was checked and its name, and the others are as they were
        by_cases hnew : j.val = w.sys.faultCount
        · obtain rfl : j = ⟨w.sys.faultCount, hroom⟩ := Fin.ext hnew
          rw [registerDone_new]
          exact ⟨hok.1, hok.2, hn cfg rfl hok⟩
        · rw [registerDone_old cfg hroom hnew]
          have hlt : j.val < w.sys.faultCount + 1 := hj
          exact h.usable j (by omega)
      · rw [register_full _ hroom]
        exact hrefused

/-- **Whatever a callback does keeps it**, however deep it nests. -/
theorem runScript_guarded (script : Script) (hn : ScriptNamed script) :
    Guarded (runScript (n := n) script) := by
  induction script with
  | done => exact fun _ _ h => h
  | clear k detect result onRecover rest ihd ihr ihrest =>
      obtain ⟨hd, hr, hrest⟩ := hn
      intro c w h
      exact ihrest hrest c _ (faultClear_guarded (ihd hd) (ihr hr) _ result h
        (handle_registered h.handles))
  | historyClear k rest ih => exact fun c w h => ih hn c _ (historyClear_guarded _ h)
  | historyClearAll rest ih => exact fun c w h => ih hn c _ (historyClearAll_guarded c w h)
  | register config rest ih => exact fun c w h => ih hn.2 c _ (register_guarded hn.1 h)

theorem faultUpdateSlot_guarded {detect action : FaultWorld n → FaultWorld n}
    (hd : Guarded detect) (ha : Guarded action) (elapsedNow now : UInt64) (result : Bool)
    (h : PointersOk c w) (hi : i.val < c) :
    PointersOk c (faultUpdateSlot w i elapsedNow now detect result action) := by
  unfold faultUpdateSlot
  split
  · exact h
  · split
    · exact faultUpdateIdle_guarded hd ha now result h hi
    · exact h
    · exact faultUpdateRecovering_guarded hd ha elapsedNow now result h hi

theorem faultUpdateLoop_guarded {env : Fin n → SlotEnv}
    (hn : ∀ i, ScriptNamed (env i).detect ∧ ScriptNamed (env i).action) :
    ∀ is : List (Fin n), Guarded (faultUpdateLoop env is)
  | [] => fun _ _ h => h
  | i :: is => by
      intro c w h
      unfold faultUpdateLoop
      split
      · rename_i hi
        have hslot := faultUpdateSlot_guarded (runScript_guarded (env i).detect (hn i).1)
          (runScript_guarded (env i).action (hn i).2) (env i).elapsedNow (env i).now (env i).result
          h.here hi
        exact faultUpdateLoop_guarded hn is c _ (hslot.fewer h.count)
      · exact h

/-! ## The status report -/

theorem plainMessage_nullFree {fmt : String} (hfmt : WellFormed (literalBytes fmt))
    (hspec : conversions (literalBytes fmt) = []) : NullFree (n := n) (.uprint ⟨fmt, []⟩) :=
  message_nullFree hfmt hspec .nil

theorem numberMessage_nullFree (fmt : String) (d : UInt8) (hfmt : WellFormed (literalBytes fmt))
    (hspec : conversions (literalBytes fmt) = [d]) (hd : d ≠ ascii 's') (v : UInt32) :
    NullFree (n := n) (.uprint ⟨fmt, [.unsigned v]⟩) :=
  message_nullFree hfmt hspec (.cons (fits_unsigned hd v) .nil)

theorem printRule_guarded : Guarded (FaultWorld.printRule (n := n)) :=
  fun _ _ h => h.emit (plainMessage_nullFree (by decide) (by decide))

theorem faultPrintLoop_guarded : ∀ is : List (Fin n), Guarded (faultPrintLoop is)
  | [] => fun _ _ h => h
  | i :: is => by
      intro c w h
      unfold faultPrintLoop
      split
      · rename_i hi
        exact faultPrintLoop_guarded is c _ (h.emit (message_nullFree (by decide) (by decide)
          ((statusArgs_fit w i).mpr (h.usable i hi).name)))
      · exact h

theorem faultPrintStatus_guarded : Guarded (faultPrintStatus (n := n)) := by
  intro c w h
  have hcount := (printRule_guarded c w h).emit
    (numberMessage_nullFree "FAULT STATUS (%u registered)\r\n" (ascii 'u') (by decide) (by decide)
      (by decide) (UInt32.ofNat w.sys.faultCount))
  have hactive := hcount.emit (numberMessage_nullFree "active_mask  = 0x%x\r\n" (ascii 'x')
    (by decide) (by decide) (by decide) (UInt32.ofBitVec w.sys.activeMask))
  have hhistory := hactive.emit (numberMessage_nullFree "history_mask = 0x%x\r\n" (ascii 'x')
    (by decide) (by decide) (by decide) (UInt32.ofBitVec w.sys.historyMask))
  exact printRule_guarded c _ (faultPrintLoop_guarded (List.finRange n) c _
    (printRule_guarded c _ hhistory))

/-! ## Runs -/

theorem faultUse_guarded {use : FaultUse n} (hn : UseNamed use) (h : PointersOk c w) :
    PointersOk c (faultUse w use) := by
  cases use with
  | printStatus => exact faultPrintStatus_guarded c w h
  | call op =>
      cases op with
      | register config => exact register_guarded hn h
      | update env => exact faultUpdateLoop_guarded hn (List.finRange n) c w h
      | clear k detect result onRecover =>
          exact faultClear_guarded (runScript_guarded detect hn.1) (runScript_guarded onRecover hn.2)
            _ result h (handle_registered h.handles)
      | historyClear k => exact historyClear_guarded _ h
      | historyClearAll => exact historyClearAll_guarded c w h

theorem faultUses_guarded (h : PointersOk c w) (uses : List (FaultUse n))
    (hn : ∀ use ∈ uses, UseNamed use) : PointersOk c (faultUses w uses) := by
  induction uses generalizing w with
  | nil => exact h
  | cons use uses ih =>
      exact ih (faultUse_guarded (hn use List.mem_cons_self) h)
        (fun use' hu => hn use' (List.mem_cons_of_mem use hu))

/-- Nothing happens before the registrations are done. -/
theorem pointersOk_registered {cs : List FaultConfig} (h : Registered cs w)
    (hcs : ∀ cfg ∈ cs, Usable cfg) : PointersOk 0 w where
  count := Nat.zero_le _
  usable := by
    intro i hi
    rw [h.count] at hi
    rw [h.fault i _ (List.getElem?_eq_getElem hi)]
    exact hcs _ (List.getElem_mem hi)
  handles := h.handles
  trace := by
    rw [h.trace]
    exact fun _ he => absurd he List.not_mem_nil

/-- The line about a fault without a name. -/
theorem printFault_null (hname : (w.fault i).cfg.name = none) :
    ∃ e, (w.printFault i).trace = w.trace ++ [e] ∧ ¬NullFree e := by
  have hspec : conversions (literalBytes "  [%u] %s  state=%s  count=%u  history=%s\r\n")
      = [ascii 'u', ascii 's', ascii 's', ascii 'u', ascii 's'] := by decide
  refine ⟨_, rfl, fun hret => ?_⟩
  exact (statusArgs_fit w i).mp ((returns_iff_fits (by decide) hspec rfl).mp hret) hname

/-- What has happened stays so. -/
theorem faultPrintLoop_trace : ∀ (is : List (Fin n)) (w : FaultWorld n),
    ∀ e ∈ w.trace, e ∈ (faultPrintLoop is w).trace
  | [], _, _, he => he
  | i :: is, w, e, he => by
      unfold faultPrintLoop
      split
      · exact faultPrintLoop_trace is _ e (List.mem_append_left _ he)
      · exact he

/-- The report has a line about every registered fault, and one without a name is in it too. -/
theorem faultPrintLoop_null : ∀ (is : List (Fin n)) (w : FaultWorld n), is.Pairwise (· < ·) →
    i ∈ is → i.val < w.sys.faultCount → (w.fault i).cfg.name = none →
      ∃ e ∈ (faultPrintLoop is w).trace, ¬NullFree e
  | [], _, _, hmem, _, _ => absurd hmem List.not_mem_nil
  | j :: is, w, hsorted, hmem, hi, hname => by
      obtain ⟨hbelow, hsorted'⟩ := List.pairwise_cons.mp hsorted
      unfold faultPrintLoop
      rcases List.mem_cons.mp hmem with rfl | hmem'
      · rw [if_pos hi]
        obtain ⟨e, htrace, he⟩ := printFault_null hname
        refine ⟨e, faultPrintLoop_trace is _ e ?_, he⟩
        rw [htrace]
        exact List.mem_append_right _ List.mem_cons_self
      · have hji : j.val < i.val := hbelow i hmem'
        rw [if_pos (Nat.lt_trans hji hi)]
        exact faultPrintLoop_null is (w.printFault j) hsorted' hmem' hi hname

theorem printRule_null (h : ∃ e ∈ w.trace, ¬NullFree e) :
    ∃ e ∈ w.printRule.trace, ¬NullFree e := by
  obtain ⟨e, he, hnull⟩ := h
  exact ⟨e, List.mem_append_left _ he, hnull⟩

theorem faultPrintStatus_null (hi : i.val < w.sys.faultCount)
    (hname : (w.fault i).cfg.name = none) : ∃ e ∈ (faultPrintStatus w).trace, ¬NullFree e := by
  unfold faultPrintStatus
  refine printRule_null ?_
  refine faultPrintLoop_null (List.finRange n) _ (List.pairwise_lt_finRange n)
    (List.mem_finRange i) ?_ ?_
  · exact hi
  · exact hname

/-- The configurations `fault_register` accepts pass its check. -/
theorem acceptedConfigs_checked {configs : List (Option FaultConfig)} {cfg : FaultConfig}
    (h : cfg ∈ acceptedConfigs n configs) : Checked cfg := by
  obtain ⟨config, _, hc⟩ := List.mem_filterMap.mp (List.mem_of_mem_take h)
  exact of_decide_eq_true (Option.filter_eq_some_iff.mp hc).2

/--
**A configuration is safe to run exactly if it has a name.**

For every sequence of registrations: no run that follows, whatever `detect` answers, the
clock reads and the callbacks do, calls a null function or has a null string printed, if
and only if every configuration that was accepted has a name. The runs are of any calls
and of status reports; what they register themselves has a name.
-/
theorem faultPointers_iff (n : Nat) (configs : List (Option FaultConfig)) :
    (∀ uses : List (FaultUse n), (∀ use ∈ uses, UseNamed use) →
      ∀ e ∈ (faultUses (registerAll (FaultWorld.init n) configs) uses).trace, NullFree e)
    ↔ ∀ cfg ∈ acceptedConfigs n configs, cfg.name ≠ none := by
  have hreg := registered_all n configs
  constructor
  · intro hsafe cfg hcfg hname
    obtain ⟨k, hk, hget⟩ := List.getElem_of_mem hcfg
    have hcount : k < (registerAll (FaultWorld.init n) configs).sys.faultCount := by
      rw [hreg.count]
      exact hk
    have hlt : k < n :=
      Nat.lt_of_lt_of_le hcount (registerAll (FaultWorld.init n) configs).sys.count_le
    -- one status report is enough
    obtain ⟨e, he, hnull⟩ := faultPrintStatus_null (i := ⟨k, hlt⟩) hcount (by
      rw [hreg.fault ⟨k, hlt⟩ cfg (by rw [List.getElem?_eq_getElem hk, hget])]
      exact hname)
    exact hnull (hsafe [.printStatus] (fun use hu => by
      rw [List.mem_singleton.mp hu]
      trivial) e he)
  · intro hnames uses huses
    have hstart := pointersOk_registered hreg fun cfg hcfg =>
      have hchecked := acceptedConfigs_checked hcfg
      ⟨hchecked.1, hchecked.2, hnames cfg hcfg⟩
    exact (faultUses_guarded hstart uses huses).trace

end

/-- A configuration with both functions, and no name. -/
def unnamed : FaultConfig := ⟨none, some 1, some 2, none, 0⟩

/-- It is accepted, and its first trigger prints a null string. -/
theorem unnamed_null :
    let w := registerAll (FaultWorld.init 2) [some unnamed]
    w.handles = [some 0] ∧ ¬ ∀ uses : List (FaultUse 2), (∀ use ∈ uses, UseNamed use) →
      ∀ e ∈ (faultUses w uses).trace, NullFree e := by
  refine ⟨by decide, fun hsafe => ?_⟩
  have htrigger := hsafe [.call (.update fun _ => ⟨0, 0, .done, true, .done⟩)] (fun use hu => by
    rw [List.mem_singleton.mp hu]
    exact fun _ => ⟨trivial, trivial⟩)
    (.uprint ⟨"[FAULT] '%s' triggered (#%u)\r\n", [.str none, .unsigned 1]⟩) (by decide)
  have hspec : conversions (literalBytes "[FAULT] '%s' triggered (#%u)\r\n")
      = [ascii 's', ascii 'u'] := by decide
  have hfits := (returns_iff_fits (by decide) hspec rfl).mp htrigger
  exact not_fits_null (List.forall₂_cons.mp hfits).1

end FwCore.Proof
