import FwCore.Proof.CallerFormats
import FwCore.Proof.FaultPointers
import FwCore.Proof.FaultReentry

/-!
# The status report tells what happened

`fault_print_status` prints the masks and then a line for each fault, from data that is kept
in three places. Whatever has been called before, in callbacks or not, they agree with each
other and with what has happened: the report is `statusText`, byte for byte, with two
numbers whose binary digits are the faults away from idle and the faults in the history, and
the count of a line is the number of times that `on_fault` was called.
-/

namespace FwCore.Proof

open FwCore Lib

section

variable {n : Nat} {w : FaultWorld n}

/-! ## What is printed -/

/-- The line that separates the parts. -/
def statusRule : List UInt8 := literalBytes "===================================\r\n"

/-- The line about a fault. -/
def statusLine (index : Nat) (f : Fault) : List UInt8 :=
  literalBytes "  [" ++ decimalText index ++ literalBytes "] " ++ nameText (f.cfg.name.getD [])
    ++ literalBytes "  state=" ++ faultStateName f.state ++ literalBytes "  count="
    ++ decimalText f.triggerCount.toNat ++ literalBytes "  history="
    ++ faultHistoryName f.hasEverTriggered ++ literalBytes "\r\n"

/-- The faults that are registered. -/
def registeredFaults (w : FaultWorld n) : List (Fin n) :=
  (List.finRange n).filter (·.val < w.sys.faultCount)

/-- The report, with the two masks as numbers. -/
def statusText (w : FaultWorld n) (active history : Nat) : List UInt8 :=
  statusRule ++ (literalBytes "FAULT STATUS (" ++ decimalText w.sys.faultCount
      ++ literalBytes " registered)\r\n")
    ++ (literalBytes "active_mask  = 0x" ++ numeralText 16 active ++ literalBytes "\r\n")
    ++ (literalBytes "history_mask = 0x" ++ numeralText 16 history ++ literalBytes "\r\n")
    ++ statusRule ++ ((registeredFaults w).flatMap fun i => statusLine i.val (w.fault i))
    ++ statusRule

/-- A message that takes all its arguments. -/
theorem prints_all {fmt : String} {args : List UprintArg} {ps : List FormatPart} {out : List UInt8}
    (hfmt : MadeOf fmt ps) (hout : rendered ps args = some (out, [])) : Prints ⟨fmt, args⟩ out :=
  prints_of_parts hfmt.1 hfmt.2 hout

theorem statusRule_prints : Prints ⟨"===================================\r\n", []⟩ statusRule := by
  have hfmt : MadeOf "===================================\r\n"
      (literals "===================================\r\n") := by decide
  exact prints_all hfmt (rendered_end _ _)

theorem rendered_hex (v : UInt32) (ps : List FormatPart) (args : List UprintArg) :
    rendered (.convert .hex :: ps) (.unsigned v :: args)
      = (rendered ps args).map fun r => (numeralText 16 v.toNat ++ r.1, r.2) := rfl

theorem rendered_string (s : CStr) (ps : List FormatPart) (args : List UprintArg) :
    rendered (.convert .string :: ps) (.str (some s) :: args)
      = (rendered ps args).map fun r => (nameText s ++ r.1, r.2) := rfl

theorem count_prints (v : UInt32) : Prints ⟨"FAULT STATUS (%u registered)\r\n", [.unsigned v]⟩
    (literalBytes "FAULT STATUS (" ++ decimalText v.toNat ++ literalBytes " registered)\r\n") := by
  have hfmt : MadeOf "FAULT STATUS (%u registered)\r\n" (literals "FAULT STATUS ("
      ++ .convert .unsigned :: literals " registered)\r\n") := by decide
  refine prints_all hfmt ?_
  rw [rendered_literals, rendered_unsigned, rendered_end, List.append_assoc]
  rfl

/-- A mask is printed in hexadecimal. -/
theorem mask_prints (fmt before : String) (hfmt : MadeOf fmt (literals before
    ++ .convert .hex :: literals "\r\n")) (v : UInt32) : Prints ⟨fmt, [.unsigned v]⟩
      (literalBytes before ++ numeralText 16 v.toNat ++ literalBytes "\r\n") := by
  refine prints_all hfmt ?_
  rw [rendered_literals, rendered_hex, rendered_end, List.append_assoc]
  rfl

/-- The names in the lines have no NUL. -/
theorem nameText_state (s : FaultState) : nameText (faultStateName s) = faultStateName s := by
  cases s <;> decide

theorem nameText_history (b : Bool) : nameText (faultHistoryName b) = faultHistoryName b := by
  cases b <;> decide

theorem line_prints (name : CStr) (index count : UInt32) (s : FaultState) (b : Bool) :
    Prints ⟨"  [%u] %s  state=%s  count=%u  history=%s\r\n",
        [.unsigned index, .str (some name), .str (some (faultStateName s)), .unsigned count,
          .str (some (faultHistoryName b))]⟩
      (literalBytes "  [" ++ decimalText index.toNat ++ literalBytes "] " ++ nameText name
        ++ literalBytes "  state=" ++ faultStateName s ++ literalBytes "  count="
        ++ decimalText count.toNat ++ literalBytes "  history=" ++ faultHistoryName b
        ++ literalBytes "\r\n") := by
  have hfmt : MadeOf "  [%u] %s  state=%s  count=%u  history=%s\r\n"
      (literals "  [" ++ .convert .unsigned :: (literals "] " ++ .convert .string
        :: (literals "  state=" ++ .convert .string :: (literals "  count="
          ++ .convert .unsigned :: (literals "  history=" ++ .convert .string
            :: literals "\r\n"))))) := by
    decide
  refine prints_all hfmt ?_
  rw [rendered_literals, rendered_unsigned, rendered_literals, rendered_string,
    rendered_literals, rendered_string, rendered_literals, rendered_unsigned, rendered_literals,
    rendered_string, rendered_end, nameText_state, nameText_history]
  simp only [Option.map_some, List.append_assoc]

/-! ## The report -/

/-- From `w` on, these calls are printed and nothing else happens. -/
structure Reports (w w' : FaultWorld n) (calls : List UprintCall) : Prop where
  trace : w'.trace = w.trace ++ calls.map .uprint
  sys : w'.sys = w.sys
  handles : w'.handles = w.handles

theorem reports_nil (w : FaultWorld n) : Reports w w [] := ⟨(List.append_nil _).symm, rfl, rfl⟩

theorem reports_print (w : FaultWorld n) (fmt : String) (args : List UprintArg) :
    Reports w (w.print fmt args) [⟨fmt, args⟩] := ⟨rfl, rfl, rfl⟩

theorem Reports.trans {w₁ w₂ w₃ : FaultWorld n} {calls calls' : List UprintCall}
    (h : Reports w₁ w₂ calls) (h' : Reports w₂ w₃ calls') : Reports w₁ w₃ (calls ++ calls') where
  trace := by rw [h'.trace, h.trace, List.append_assoc, List.map_append]
  sys := h'.sys.trans h.sys
  handles := h'.handles.trans h.handles

/-- The message about a fault. -/
def statusCall (w : FaultWorld n) (i : Fin n) : UprintCall :=
  ⟨"  [%u] %s  state=%s  count=%u  history=%s\r\n",
    [.unsigned (w.fault i).index.toUInt32, w.nameArg i,
      .str (some (faultStateName (w.fault i).state)), .unsigned (w.fault i).triggerCount,
      .str (some (faultHistoryName (w.fault i).hasEverTriggered))]⟩

/-- The loop stops at the first entry that is not registered; in order, none is left out. -/
theorem faultPrintLoop_reports (is : List (Fin n)) (hsorted : is.Pairwise (· < ·))
    (w : FaultWorld n) : Reports w (faultPrintLoop is w)
      ((is.filter (·.val < w.sys.faultCount)).map (statusCall w)) := by
  induction is generalizing w with
  | nil => exact reports_nil w
  | cons i is ih =>
      obtain ⟨hbelow, hsorted'⟩ := List.pairwise_cons.mp hsorted
      unfold faultPrintLoop
      by_cases hi : i.val < w.sys.faultCount
      · rw [if_pos hi, List.filter_cons_of_pos (by simpa using hi), List.map_cons]
        exact (reports_print w _ _).trans (ih hsorted' (w.printFault i))
      · have hnone : (i :: is).filter (·.val < w.sys.faultCount) = [] := by
          refine List.filter_eq_nil_iff.mpr fun j hj => ?_
          have hle : i.val ≤ j.val := by
            rcases List.mem_cons.mp hj with rfl | hj
            · exact Nat.le_refl _
            · exact Nat.le_of_lt (hbelow j hj)
          simp only [decide_eq_true_eq]
          omega
        rw [if_neg hi, hnone]
        exact reports_nil w

/-- The calls of the report. -/
def statusCalls (w : FaultWorld n) : List UprintCall :=
  [⟨"===================================\r\n", []⟩]
    ++ [⟨"FAULT STATUS (%u registered)\r\n", [.unsigned (UInt32.ofNat w.sys.faultCount)]⟩]
    ++ [⟨"active_mask  = 0x%x\r\n", [.unsigned (UInt32.ofBitVec w.sys.activeMask)]⟩]
    ++ [⟨"history_mask = 0x%x\r\n", [.unsigned (UInt32.ofBitVec w.sys.historyMask)]⟩]
    ++ [⟨"===================================\r\n", []⟩]
    ++ (registeredFaults w).map (statusCall w)
    ++ [⟨"===================================\r\n", []⟩]

theorem faultPrintStatus_reports (w : FaultWorld n) :
    Reports w (faultPrintStatus w) (statusCalls w) := by
  have hhead := ((((reports_print w "===================================\r\n" []).trans
    (reports_print _ "FAULT STATUS (%u registered)\r\n"
      [.unsigned (UInt32.ofNat w.sys.faultCount)])).trans
    (reports_print _ "active_mask  = 0x%x\r\n"
      [.unsigned (UInt32.ofBitVec w.sys.activeMask)])).trans
    (reports_print _ "history_mask = 0x%x\r\n"
      [.unsigned (UInt32.ofBitVec w.sys.historyMask)])).trans
    (reports_print _ "===================================\r\n" [])
  exact (hhead.trans (faultPrintLoop_reports _ (List.pairwise_lt_finRange n) _)).trans
    (reports_print _ _ [])

/-- What has a name and its own index is printed as it is. -/
theorem statusCall_prints {i : Fin n} (hindex : (w.fault i).index.toNat = i.val)
    (hname : (w.fault i).cfg.name ≠ none) :
    Prints (statusCall w i) (statusLine i.val (w.fault i)) := by
  obtain ⟨name, hname⟩ := Option.ne_none_iff_exists'.mp hname
  unfold statusCall statusLine FaultWorld.nameArg
  rw [hname, Option.getD_some, ← hindex, ← UInt8.toNat_toUInt32]
  exact line_prints name _ _ _ _

theorem statusCalls_transmit (hn : n ≤ 32)
    (hindex : ∀ i : Fin n, i.val < w.sys.faultCount → (w.fault i).index.toNat = i.val)
    (hnames : ∀ i : Fin n, i.val < w.sys.faultCount → (w.fault i).cfg.name ≠ none) :
    Transmits (statusCalls w)
      (statusText w w.sys.activeMask.toNat w.sys.historyMask.toNat) := by
  have hcount : (UInt32.ofNat w.sys.faultCount).toNat = w.sys.faultCount := by
    have hle := w.sys.count_le
    rw [UInt32.toNat_ofNat']
    exact Nat.mod_eq_of_lt (by omega)
  have hlines : Transmits ((registeredFaults w).map (statusCall w))
      ((registeredFaults w).flatMap fun i => statusLine i.val (w.fault i)) := by
    refine transmits_map fun i hi => ?_
    have hreg : i.val < w.sys.faultCount := by
      simpa [registeredFaults] using hi
    exact statusCall_prints (hindex i hreg) (hnames i hreg)
  have hnumber := count_prints (UInt32.ofNat w.sys.faultCount)
  rw [hcount] at hnumber
  have hrule := transmits_single statusRule_prints
  have hactive := mask_prints "active_mask  = 0x%x\r\n" "active_mask  = 0x" (by decide)
    (UInt32.ofBitVec w.sys.activeMask)
  have hhistory := mask_prints "history_mask = 0x%x\r\n" "history_mask = 0x" (by decide)
    (UInt32.ofBitVec w.sys.historyMask)
  exact (((((hrule.append (transmits_single hnumber)).append (transmits_single hactive)).append
    (transmits_single hhistory)).append hrule).append hlines).append hrule

/-! ## Runs -/

/-- All that the report relies on. -/
structure StatusOk (w : FaultWorld n) : Prop where
  masks : MasksOk none w
  turns : TurnsOk False w
  pointers : PointersOk 0 w

theorem statusOk_init (n : Nat) : StatusOk (FaultWorld.init n) where
  masks := init_ok n
  turns := turnsOk_init False n
  pointers := ⟨Nat.zero_le _, fun i hi => absurd hi (Nat.not_lt_zero i.val),
    fun _ hi => absurd hi List.not_mem_nil, fun _ he => absurd he List.not_mem_nil⟩

/-- A report leaves the masks and the faults alone. -/
theorem Reports.sameMasks {w' : FaultWorld n} {calls : List UprintCall} (h : Reports w w' calls) :
    SameMasks w w' := by
  obtain ⟨_, hsys, hhandles⟩ := h
  rcases w with ⟨sys, handles, trace⟩
  rcases w' with ⟨sys', handles', trace'⟩
  obtain rfl : sys' = sys := hsys
  obtain rfl : handles' = handles := hhandles
  exact ⟨rfl, rfl, rfl, rfl, fun _ => ⟨rfl, rfl, rfl⟩⟩

theorem Reports.turns {w' : FaultWorld n} {calls : List UprintCall} (h : Reports w w' calls)
    (hw : TurnsOk False w) : TurnsOk False w' := by
  have hfault : w'.fault = w.fault := by
    unfold FaultWorld.fault
    rw [h.sys]
  have hsilent : ∀ j : Fin n, ∀ e ∈ calls.map FaultEvent.uprint, stepAt j e = none ∧ ¬ Clears j e := by
    intro j e he
    obtain ⟨call, _, rfl⟩ := List.mem_map.mp he
    exact ⟨rfl, id⟩
  exact hw.within (d := 0) (within_of_same hw.handles h.trace hfault (by rw [h.sys]) h.handles
    hsilent) fun hf => hf.elim

theorem faultUse_statusOk (hn : n ≤ 32) (h : StatusOk w) {use : FaultUse n}
    (hnamed : UseNamed use) : StatusOk (faultUse w use) := by
  have hpointers := faultUse_guarded hnamed h.pointers
  cases use with
  | call op =>
      exact ⟨faultCall_ok hn h.masks op, faultCall_turns h.turns op fun hf => hf.elim, hpointers⟩
  | printStatus =>
      have hreports := faultPrintStatus_reports w
      exact ⟨hreports.sameMasks.ok h.masks, hreports.turns h.turns, hpointers⟩

theorem faultUses_statusOk (hn : n ≤ 32) (h : StatusOk w) (uses : List (FaultUse n))
    (hnamed : ∀ use ∈ uses, UseNamed use) : StatusOk (faultUses w uses) := by
  induction uses generalizing w with
  | nil => exact h
  | cons use uses ih =>
      have hstep := faultUse_statusOk hn h (hnamed use List.mem_cons_self)
      exact ih hstep fun use' hu => hnamed use' (List.mem_cons_of_mem use hu)

/--
**The status report tells what happened.**

After any calls and reports, with any callbacks, that register faults with names: a status
report changes nothing and prints, byte for byte, how many faults there are, two masks, and a
line for each fault with its name, state and history. The binary digits of the masks are the
faults away from idle and the faults with a history; the state of a line is away from `IDLE`
just if an `on_fault` of the fault is yet to be followed by a return, its count is how often
`on_fault` was called, modulo `2 ^ 32`, and it has a history just if one was called since the
history was last cleared.
-/
theorem status_report_truthful (n : Nat) (hn : n ≤ 32) (uses : List (FaultUse n))
    (hnamed : ∀ use ∈ uses, UseNamed use) :
    let w := faultUses (FaultWorld.init n) uses
    ∃ calls active history, (faultPrintStatus w).trace = w.trace ++ calls.map .uprint
      ∧ (faultPrintStatus w).sys = w.sys
      ∧ Transmits calls (statusText w active history)
      ∧ (∀ k, active.testBit k = true
        ↔ ∃ h : k < n, k < w.sys.faultCount ∧ (w.fault ⟨k, h⟩).state ≠ .idle)
      ∧ (∀ k, history.testBit k = true
        ↔ ∃ h : k < n, k < w.sys.faultCount ∧ (w.fault ⟨k, h⟩).hasEverTriggered = true)
      ∧ ∀ i : Fin n, i.val < w.sys.faultCount →
        ((w.fault i).state ≠ .idle ↔ Since (IsOnFault i) (· = .idle i) w.trace)
        ∧ (w.fault i).triggerCount.toNat = onFaults i w.trace % 2 ^ 32
        ∧ ((w.fault i).hasEverTriggered = true ↔ Since (IsOnFault i) (Clears i) w.trace) := by
  intro w
  have hw : StatusOk w := faultUses_statusOk hn (statusOk_init n) uses hnamed
  have hreports := faultPrintStatus_reports w
  refine ⟨statusCalls w, w.sys.activeMask.toNat, w.sys.historyMask.toNat, hreports.trace,
    hreports.sys, ?_, fun k => ?_, fun k => ?_, fun i hi => ?_⟩
  · exact statusCalls_transmit hn hw.masks.index fun i hi => (hw.pointers.usable i hi).name
  · rw [BitVec.testBit_toNat]
    exact mask_bits (fun i => hw.masks.active i (by simp)) (fun b hb => (hw.masks.beyond b hb).1) k
  · rw [BitVec.testBit_toNat]
    exact mask_bits hw.masks.history (fun b hb => (hw.masks.beyond b hb).2) k
  · have h := hw.turns.registered i hi
    refine ⟨h.away, ?_, h.history⟩
    rw [h.count, UInt32.toNat_ofNat']

end

/-- A latched fault and one with a cooldown; both trigger, and the first is cleared. -/
def reportedCalls : List (FaultUse 2) :=
  [.call (.register (some ⟨some [ascii 'a'], some 1, some 2, none, 0⟩)),
    .call (.register (some ⟨some [ascii 'b'], some 3, some 4, none, 500⟩)), .printStatus,
    .call (.update fun _ => ⟨0, 0, .done, true, .done⟩), .call (.clear 0 .done false .done)]

theorem reportedCalls_named : ∀ use ∈ reportedCalls, UseNamed use := by
  simp [reportedCalls, UseNamed, Named, ScriptNamed]

theorem status_report_truthful_two :
    let w := faultUses (FaultWorld.init 2) reportedCalls
    ∃ calls active history, (faultPrintStatus w).trace = w.trace ++ calls.map .uprint
      ∧ Transmits calls (statusText w active history)
      ∧ (∀ k, active.testBit k = true
        ↔ ∃ h : k < 2, k < w.sys.faultCount ∧ (w.fault ⟨k, h⟩).state ≠ .idle) := by
  obtain ⟨calls, active, history, htrace, _, htext, hactive, _⟩ :=
    status_report_truthful 2 (by decide) reportedCalls reportedCalls_named
  exact ⟨calls, active, history, htrace, htext, hactive⟩

end FwCore.Proof
