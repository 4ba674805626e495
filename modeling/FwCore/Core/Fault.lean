import Mathlib.Logic.Function.Basic
import FwCore.Core.SimpleTimer
import FwCore.Core.Uprint
import FwCore.Lib.Mask

/-!
# The fault manager (`core/fault.c`)

A registry of at most `FAULT_MAX_ENTRIES` faults, `n` here, each a small state
machine, and two masks that record for each fault whether it is away from
`FAULT_STATE_IDLE` and whether it ever triggered.

The transitions call out: `detect`, `on_fault` and `on_recover` are functions of the
application, and may call the fault manager again. What a callback does is a
parameter of every function here that calls one: a function from worlds to worlds,
together with the answer for `detect`. `Script` gives the functions a callback can
be made of, nested as deep as one likes.

`FaultWorld` is the module's data with two ghosts: the handles `fault_register` has
returned, which are all the handles a program can have, and a trace of the calls
and the transitions.
-/

namespace FwCore

open Lib

/-- The address of an application function. -/
abbrev FnPtr := Nat

/-- `fault_state_e`. -/
inductive FaultState where
  | idle
  | active
  | recovering
deriving DecidableEq, Repr

/-- `fault_config_t`. A pointer may be `NULL`. -/
structure FaultConfig where
  name : Option CStr
  detect : Option FnPtr
  onFault : Option FnPtr
  onRecover : Option FnPtr
  recoveryMs : UInt32
deriving DecidableEq, Repr

/-- `fault_t`. -/
structure Fault where
  cfg : FaultConfig
  state : FaultState
  recoveryTimer : SimpleTimer
  triggerCount : UInt32
  hasEverTriggered : Bool
  index : UInt8
  registered : Bool
deriving DecidableEq, Repr

/-- An entry of the registry after `memset`. -/
def Fault.zeroed : Fault where
  cfg := ⟨none, none, none, none, 0⟩
  state := .idle
  recoveryTimer := SimpleTimer.zeroed
  triggerCount := 0
  hasEverTriggered := false
  index := 0
  registered := false

/-- The data of the module. -/
structure FaultSys (n : Nat) where
  registry : Fin n → Fault
  faultCount : Nat
  activeMask : BitVec 32
  historyMask : BitVec 32
  /-- `fault_register` never counts past the registry. -/
  count_le : faultCount ≤ n

/-- A call to the application, or a step of the state machine. -/
inductive FaultEvent (n : Nat) where
  /-- `detect` of fault `i` has returned. -/
  | detect (i : Fin n) (fn : Option FnPtr) (result : Bool)
  /-- `on_fault` is called. -/
  | onFault (i : Fin n) (fn : Option FnPtr)
  /-- `on_recover` is called, while `active_mask` is as given. -/
  | onRecover (i : Fin n) (fn : Option FnPtr) (activeMask : BitVec 32)
  /-- The fault returns to `FAULT_STATE_IDLE`. -/
  | idle (i : Fin n)
  /-- `fault_history_clear` for this fault. -/
  | historyClear (i : Fin n)
  /-- `fault_history_clear_all`. -/
  | historyClearAll
  | uprint (call : UprintCall)
deriving DecidableEq, Repr

/-- The module's data, the handles handed out, and what has happened. -/
structure FaultWorld (n : Nat) where
  sys : FaultSys n
  /-- Ghost: what `fault_register` has returned, oldest first. -/
  handles : List (Option (Fin n))
  /-- Ghost: what has happened, oldest first. -/
  trace : List (FaultEvent n)

section

variable {n : Nat}

namespace FaultWorld

def fault (w : FaultWorld n) (i : Fin n) : Fault := w.sys.registry i

def emit (w : FaultWorld n) (e : FaultEvent n) : FaultWorld n := { w with trace := w.trace ++ [e] }

/-- `uprint(fmt, args)`. -/
def print (w : FaultWorld n) (fmt : String) (args : List UprintArg) : FaultWorld n :=
  w.emit (.uprint ⟨fmt, args⟩)

/-- Assign to fields of `fault_registry[i]`. -/
def modify (w : FaultWorld n) (i : Fin n) (g : Fault → Fault) : FaultWorld n :=
  { w with sys := { w.sys with registry := Function.update w.sys.registry i (g (w.fault i)) } }

/-- `mask_set_active`. -/
def maskSetActive (w : FaultWorld n) (i : Fin n) : FaultWorld n :=
  { w with sys := { w.sys with activeMask := setBit w.sys.activeMask (w.fault i).index.toNat } }

/-- `mask_clear_active`. -/
def maskClearActive (w : FaultWorld n) (i : Fin n) : FaultWorld n :=
  { w with sys := { w.sys with activeMask := clearBit w.sys.activeMask (w.fault i).index.toNat } }

/-- `mask_set_history`. -/
def maskSetHistory (w : FaultWorld n) (i : Fin n) : FaultWorld n :=
  { w with sys := { w.sys with historyMask := setBit w.sys.historyMask (w.fault i).index.toNat } }

/-- `history_mask &= ~(1UL << f->index)`. -/
def maskClearHistory (w : FaultWorld n) (i : Fin n) : FaultWorld n :=
  { w with sys := { w.sys with historyMask := clearBit w.sys.historyMask (w.fault i).index.toNat } }

/-- `f->state = s`. -/
def setState (w : FaultWorld n) (i : Fin n) (s : FaultState) : FaultWorld n :=
  w.modify i (fun f => { f with state := s })

/-- `f->state = FAULT_STATE_IDLE`, at the end of a recovery. -/
def toIdle (w : FaultWorld n) (i : Fin n) : FaultWorld n := (w.setState i .idle).emit (.idle i)

/-- `f->cfg.detect()`, which does `body` and returns `result`. -/
def callDetect (w : FaultWorld n) (i : Fin n) (body : FaultWorld n → FaultWorld n) (result : Bool) :
    FaultWorld n :=
  (body w).emit (.detect i (w.fault i).cfg.detect result)

/-- `f->cfg.on_fault()`, which does `body`. -/
def callOnFault (w : FaultWorld n) (i : Fin n) (body : FaultWorld n → FaultWorld n) :
    FaultWorld n :=
  body (w.emit (.onFault i (w.fault i).cfg.onFault))

/-- `if(f->cfg.on_recover != NULL) f->cfg.on_recover()`, which does `body`. -/
def callOnRecover (w : FaultWorld n) (i : Fin n) (body : FaultWorld n → FaultWorld n) :
    FaultWorld n :=
  if (w.fault i).cfg.onRecover = none then w
  else body (w.emit (.onRecover i (w.fault i).cfg.onRecover w.sys.activeMask))

/-- `simple_timer_setup(&f->recovery_timer, f->cfg.recovery_ms, false)`, at clock reading `now`. -/
def setupTimer (w : FaultWorld n) (i : Fin n) (now : UInt64) : FaultWorld n :=
  w.modify i (fun f => { f with
    recoveryTimer := simpleTimerSetup now f.cfg.recoveryMs.toUInt64 false })

/-- What a trigger writes before `on_fault` is called; the state follows after it. -/
def noteTrigger (w : FaultWorld n) (i : Fin n) : FaultWorld n :=
  let w := w.modify i (fun f => { f with triggerCount := f.triggerCount + 1 })
  let w := w.modify i (fun f => { f with hasEverTriggered := true })
  (w.maskSetActive i).maskSetHistory i

def nameArg (w : FaultWorld n) (i : Fin n) : UprintArg := .str (w.fault i).cfg.name

section Access

variable (w : FaultWorld n) (i : Fin n)

@[simp] theorem emit_sys (e : FaultEvent n) : (w.emit e).sys = w.sys := rfl

@[simp] theorem emit_fault (e : FaultEvent n) : (w.emit e).fault = w.fault := rfl

@[simp] theorem emit_trace (e : FaultEvent n) : (w.emit e).trace = w.trace ++ [e] := rfl

@[simp] theorem print_fault (fmt : String) (args : List UprintArg) :
    (w.print fmt args).fault = w.fault := rfl

@[simp] theorem modify_self (g : Fault → Fault) : (w.modify i g).fault i = g (w.fault i) :=
  Function.update_self ..

theorem modify_ne {j : Fin n} (h : j ≠ i) (g : Fault → Fault) :
    (w.modify i g).fault j = w.fault j :=
  Function.update_of_ne h ..

@[simp] theorem maskSetActive_fault : (w.maskSetActive i).fault = w.fault := rfl

@[simp] theorem maskSetHistory_fault : (w.maskSetHistory i).fault = w.fault := rfl

@[simp] theorem maskClearHistory_fault : (w.maskClearHistory i).fault = w.fault := rfl

@[simp] theorem noteTrigger_self : (w.noteTrigger i).fault i
    = { w.fault i with
        triggerCount := (w.fault i).triggerCount + 1
        hasEverTriggered := true } := by
  rw [noteTrigger, maskSetHistory_fault, maskSetActive_fault, modify_self, modify_self]

theorem noteTrigger_ne {j : Fin n} (h : j ≠ i) : (w.noteTrigger i).fault j = w.fault j := by
  rw [noteTrigger, maskSetHistory_fault, maskSetActive_fault, modify_ne _ i h, modify_ne _ i h]

@[simp] theorem noteTrigger_active :
    (w.noteTrigger i).sys.activeMask = setBit w.sys.activeMask (w.fault i).index.toNat := by
  rw [noteTrigger, maskSetHistory, maskSetActive, modify_self, modify_self]
  rfl

@[simp] theorem noteTrigger_history :
    (w.noteTrigger i).sys.historyMask = setBit w.sys.historyMask (w.fault i).index.toNat := by
  rw [noteTrigger, maskSetHistory, maskSetActive_fault, modify_self, modify_self]
  rfl

end Access

end FaultWorld

/-! ## Registration -/

/-- `fault_init`. -/
def faultInit (n : Nat) : FaultSys n where
  registry := fun _ => .zeroed
  faultCount := 0
  activeMask := 0
  historyMask := 0
  count_le := Nat.zero_le n

/-- What `fault_register` makes of an entry. -/
def Fault.register (f : Fault) (config : FaultConfig) (index : Nat) : Fault :=
  { f with
    cfg := config
    state := .idle
    triggerCount := 0
    hasEverTriggered := false
    index := UInt8.ofNat index
    registered := true }

/-- `fault_register`. -/
def faultRegister (s : FaultSys n) (config : Option FaultConfig) : Option (Fin n) × FaultSys n :=
  match config with
  | none => (none, s)
  | some config =>
    if config.detect = none then (none, s)
    else if config.onFault = none then (none, s)
    else if h : s.faultCount < n then
      let i : Fin n := ⟨s.faultCount, h⟩
      (some i, { s with
        registry := Function.update s.registry i ((s.registry i).register config s.faultCount)
        faultCount := s.faultCount + 1
        count_le := h })
    else (none, s)

/-- A call of `fault_register`, whose result the program keeps. -/
def FaultWorld.register (w : FaultWorld n) (config : Option FaultConfig) : FaultWorld n :=
  let r := faultRegister w.sys config
  { w with sys := r.2, handles := w.handles ++ [r.1] }

/-! ## The state machine -/

/-- `fault_update`'s `FAULT_STATE_IDLE` case. -/
def faultUpdateIdle (w : FaultWorld n) (i : Fin n) (now : UInt64)
    (detect : FaultWorld n → FaultWorld n) (result : Bool) (onFault : FaultWorld n → FaultWorld n) :
    FaultWorld n :=
  let w := w.callDetect i detect result
  if result then
    let w := (w.noteTrigger i).callOnFault i onFault
    let w := w.print "[FAULT] '%s' triggered (#%u)\r\n"
      [w.nameArg i, .unsigned (w.fault i).triggerCount]
    if (w.fault i).cfg.recoveryMs > 0 then
      (w.setupTimer i now).setState i .recovering
    else w.setState i .active
  else w

/-- `fault_update`'s `FAULT_STATE_RECOVERING` case. -/
def faultUpdateRecovering (w : FaultWorld n) (i : Fin n) (elapsedNow now : UInt64)
    (detect : FaultWorld n → FaultWorld n) (result : Bool)
    (onRecover : FaultWorld n → FaultWorld n) : FaultWorld n :=
  let polled := simpleTimerHasElapsed (w.fault i).recoveryTimer elapsedNow
  let w := w.modify i (fun f => { f with recoveryTimer := polled.2 })
  if polled.1 then
    let w := w.callDetect i detect result
    if result then
      let w := w.print "[FAULT] '%s' still active, extending cooldown\r\n" [w.nameArg i]
      w.setupTimer i now
    else
      let w := w.print "[FAULT] '%s' recovering\r\n" [w.nameArg i]
      let w := w.maskClearActive i
      let w := w.callOnRecover i onRecover
      w.toIdle i
  else w

/-- One pass of the loop of `fault_update`. `action` is what `on_fault` or `on_recover` does. -/
def faultUpdateSlot (w : FaultWorld n) (i : Fin n) (elapsedNow now : UInt64)
    (detect : FaultWorld n → FaultWorld n) (result : Bool) (action : FaultWorld n → FaultWorld n) :
    FaultWorld n :=
  if (w.fault i).registered = false then w
  else match (w.fault i).state with
    | .idle => faultUpdateIdle w i now detect result action
    | .active => w
    | .recovering => faultUpdateRecovering w i elapsedNow now detect result action

/-- `fault_clear`. -/
def faultClear (w : FaultWorld n) (handle : Option (Fin n)) (detect : FaultWorld n → FaultWorld n)
    (result : Bool) (onRecover : FaultWorld n → FaultWorld n) : FaultWorld n :=
  match handle with
  | none => w
  | some i =>
    if (w.fault i).state ≠ .active then w
    else
      let w := w.callDetect i detect result
      if result = false then
        let w := w.print "[FAULT] '%s' cleared manually\r\n" [w.nameArg i]
        let w := w.callOnRecover i onRecover
        let w := w.maskClearActive i
        w.toIdle i
      else w.print "[FAULT] '%s' clear ignored — condition still active\r\n" [w.nameArg i]

/-! ## The history -/

/-- `fault_history_clear`. -/
def faultHistoryClear (w : FaultWorld n) (handle : Option (Fin n)) : FaultWorld n :=
  match handle with
  | none => w
  | some i =>
    let w := w.modify i (fun f => { f with hasEverTriggered := false })
    w.maskClearHistory i

/-- `fault_history_clear_all`. -/
def faultHistoryClearAll (w : FaultWorld n) : FaultWorld n :=
  let registry := fun i : Fin n =>
    if i.val < w.sys.faultCount then { w.sys.registry i with hasEverTriggered := false }
    else w.sys.registry i
  { w with sys := { w.sys with registry := registry, historyMask := 0 } }

/-- A call of `fault_history_clear`, which is on record if there is a fault to it. -/
def FaultWorld.historyClear (w : FaultWorld n) (handle : Option (Fin n)) : FaultWorld n :=
  match handle with
  | none => faultHistoryClear w none
  | some i => (faultHistoryClear w (some i)).emit (.historyClear i)

/-- A call of `fault_history_clear_all`, which is on record. -/
def FaultWorld.historyClearAll (w : FaultWorld n) : FaultWorld n :=
  (faultHistoryClearAll w).emit .historyClearAll

theorem historyClearAll_fault (w : FaultWorld n) {i : Fin n} (hi : i.val < w.sys.faultCount) :
    w.historyClearAll.fault i = { w.fault i with hasEverTriggered := false } := by
  unfold FaultWorld.historyClearAll faultHistoryClearAll
  rw [FaultWorld.emit_fault]
  dsimp only [FaultWorld.fault]
  rw [if_pos hi]

/-- Whether it is registered or not, a fault loses nothing but its history flag. -/
theorem historyClearAll_keeps (w : FaultWorld n) (i : Fin n) :
    ∃ flag, w.historyClearAll.fault i = { w.fault i with hasEverTriggered := flag } := by
  by_cases hi : i.val < w.sys.faultCount
  · exact ⟨false, historyClearAll_fault w hi⟩
  · refine ⟨(w.fault i).hasEverTriggered, ?_⟩
    unfold FaultWorld.historyClearAll faultHistoryClearAll
    rw [FaultWorld.emit_fault]
    dsimp only [FaultWorld.fault]
    rw [if_neg hi]

/-! ## Queries -/

/-- `fault_get_state`. -/
def faultGetState (w : FaultWorld n) : Option (Fin n) → FaultState
  | none => .idle
  | some i => (w.fault i).state

/-- `fault_get_trigger_count`. -/
def faultGetTriggerCount (w : FaultWorld n) : Option (Fin n) → UInt32
  | none => 0
  | some i => (w.fault i).triggerCount

/-- `fault_has_ever_triggered`. -/
def faultHasEverTriggered (w : FaultWorld n) : Option (Fin n) → Bool
  | none => false
  | some i => (w.fault i).hasEverTriggered

/-- `fault_get_masks`. -/
def faultGetMasks (w : FaultWorld n) : BitVec 32 × BitVec 32 :=
  (w.sys.activeMask, w.sys.historyMask)

/-- `fault_any_active`. -/
def faultAnyActive (w : FaultWorld n) : Bool := w.sys.activeMask != 0

/-- `fault_any_in_history`. -/
def faultAnyInHistory (w : FaultWorld n) : Bool := w.sys.historyMask != 0

/-! ## The status report -/

/-- `state_names[s]`. -/
def faultStateName (s : FaultState) : CStr :=
  (match s with
    | .idle => "IDLE"
    | .active => "ACTIVE"
    | .recovering => "RECOVERING").toList.map ascii

/-- `f->has_ever_triggered ? "YES" : "no"`. -/
def faultHistoryName (hasEverTriggered : Bool) : CStr :=
  (if hasEverTriggered then "YES" else "no").toList.map ascii

/-- The line that separates the parts of the report. -/
def FaultWorld.printRule (w : FaultWorld n) : FaultWorld n :=
  w.print "===================================\r\n" []

/-- The line of the report about one fault. -/
def FaultWorld.printFault (w : FaultWorld n) (i : Fin n) : FaultWorld n :=
  w.print "  [%u] %s  state=%s  count=%u  history=%s\r\n"
    [.unsigned (w.fault i).index.toUInt32, w.nameArg i,
      .str (some (faultStateName (w.fault i).state)), .unsigned (w.fault i).triggerCount,
      .str (some (faultHistoryName (w.fault i).hasEverTriggered))]

/-- The loop of `fault_print_status`, from the given entries on. -/
def faultPrintLoop : List (Fin n) → FaultWorld n → FaultWorld n
  | [], w => w
  | i :: is, w => if i.val < w.sys.faultCount then faultPrintLoop is (w.printFault i) else w

/-- `fault_print_status`. -/
def faultPrintStatus (w : FaultWorld n) : FaultWorld n :=
  let w := w.printRule
  let w := w.print "FAULT STATUS (%u registered)\r\n"
    [.unsigned (UInt32.ofNat w.sys.faultCount)]
  let w := w.print "active_mask  = 0x%x\r\n" [.unsigned (UInt32.ofBitVec w.sys.activeMask)]
  let w := w.print "history_mask = 0x%x\r\n" [.unsigned (UInt32.ofBitVec w.sys.historyMask)]
  let w := w.printRule
  (faultPrintLoop (List.finRange n) w).printRule

/-! ## What a callback may do -/

/--
A sequence of calls a callback makes, with what the callbacks those calls make do in
their turn. A handle is named by when it was returned; a name that stands for none
is `NULL`.
-/
inductive Script where
  | done
  | clear (handle : Nat) (detect : Script) (result : Bool) (onRecover rest : Script)
  | historyClear (handle : Nat) (rest : Script)
  | historyClearAll (rest : Script)
  | register (config : Option FaultConfig) (rest : Script)
deriving DecidableEq, Repr

/-- The handle a name stands for. -/
def FaultWorld.handle (w : FaultWorld n) (k : Nat) : Option (Fin n) := w.handles.getD k none

/-- Make the calls of a script. -/
def runScript : Script → FaultWorld n → FaultWorld n
  | .done, w => w
  | .clear k detect result onRecover rest, w =>
    runScript rest (faultClear w (w.handle k) (runScript detect) result (runScript onRecover))
  | .historyClear k rest, w => runScript rest (w.historyClear (w.handle k))
  | .historyClearAll rest, w => runScript rest w.historyClearAll
  | .register config rest, w => runScript rest (w.register config)

/-- What happens at one fault during `fault_update`: clock readings, and the callbacks. -/
structure SlotEnv where
  elapsedNow : UInt64
  now : UInt64
  detect : Script
  result : Bool
  action : Script
deriving DecidableEq, Repr

/-- The loop of `fault_update`, from the given entries on; it stops at `fault_count`. -/
def faultUpdateLoop (env : Fin n → SlotEnv) : List (Fin n) → FaultWorld n → FaultWorld n
  | [], w => w
  | i :: is, w =>
    if i.val < w.sys.faultCount then
      faultUpdateLoop env is (faultUpdateSlot w i (env i).elapsedNow (env i).now
        (runScript (env i).detect) (env i).result (runScript (env i).action))
    else w

/-- `fault_update`. -/
def faultUpdate (env : Fin n → SlotEnv) (w : FaultWorld n) : FaultWorld n :=
  faultUpdateLoop env (List.finRange n) w

/-! ## Programs -/

/-- An outermost call. -/
inductive FaultOp (n : Nat) where
  | register (config : Option FaultConfig)
  | update (env : Fin n → SlotEnv)
  | clear (handle : Nat) (detect : Script) (result : Bool) (onRecover : Script)
  | historyClear (handle : Nat)
  | historyClearAll

/-- One outermost call. -/
def faultCall (w : FaultWorld n) : FaultOp n → FaultWorld n
  | .register config => w.register config
  | .update env => faultUpdate env w
  | .clear k detect result onRecover =>
    faultClear w (w.handle k) (runScript detect) result (runScript onRecover)
  | .historyClear k => w.historyClear (w.handle k)
  | .historyClearAll => w.historyClearAll

/-- The world after `fault_init`. -/
def FaultWorld.init (n : Nat) : FaultWorld n := ⟨faultInit n, [], []⟩

/-- A sequence of outermost calls. -/
def faultRun (w : FaultWorld n) (ops : List (FaultOp n)) : FaultWorld n := ops.foldl faultCall w

end

end FwCore
