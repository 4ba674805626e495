import FwCore.Lib.Delimited
import FwCore.Proof.FaultStatus

/-!
# The status report can be read back

A fault may have any name, with spaces, brackets and equals signs in it. But the index comes
before the name, and ends at the first bracket; and what follows the name has three equals
signs, of which the last three of the line are the ones. So as long as no name has a line feed
in it, the report tells the faults, their states, counts and histories apart, and with them
the masks.
-/

namespace FwCore.Proof

open FwCore Lib

/-! ## Numbers -/

/-- The digit a character stands for. -/
def charDigit (c : UInt8) : Nat := if c < 58 then c.toNat - 48 else c.toNat - 55

theorem charDigit_digitChar {k : Nat} (h : k < 16) : charDigit (digitChar k) = k := by
  have hall : ∀ k : Fin 16, charDigit (digitChar k.val) = k.val := by decide
  exact hall ⟨k, h⟩

section

variable {base : Nat} (hlo : 1 < base) (hhi : base ≤ 16)
include hlo hhi

/-- A number is printed with digits only. -/
theorem numeralText_not_mem {c : UInt8} (hc : ∀ k : Fin 16, digitChar k.val ≠ c) (n : Nat) :
    c ∉ numeralText base n := by
  intro hmem
  obtain ⟨k, hk, rfl⟩ := List.mem_map.mp hmem
  have hlt := (numeral_isNumeral hlo n).digit k hk
  exact hc ⟨k, Nat.lt_of_lt_of_le hlt hhi⟩ rfl

/-- **And can be read back.** -/
theorem numeralText_inj {n m : Nat} (h : numeralText base n = numeralText base m) : n = m := by
  have hback : ∀ n, (numeralText base n).map charDigit = numeral base n := by
    intro n
    unfold numeralText
    rw [List.map_map]
    refine (List.map_congr_left fun k hk => ?_).trans (List.map_id _)
    exact charDigit_digitChar (Nat.lt_of_lt_of_le ((numeral_isNumeral hlo n).digit k hk) hhi)
  refine numeral_inj hlo ?_
  rw [← hback n, h, hback m]

end

/-! ## A line -/

/-- What a line says. -/
structure FaultReport where
  index : Nat
  name : List UInt8
  state : FaultState
  count : Nat
  history : Bool
deriving DecidableEq

/-- Of a fault. -/
def faultReport (index : Nat) (f : Fault) : FaultReport where
  index := index
  name := nameText (f.cfg.name.getD [])
  state := f.state
  count := f.triggerCount.toNat
  history := f.hasEverTriggered

/-- The line, but for its end: the name, and three times something behind an equals sign. -/
def FaultReport.body (r : FaultReport) : List UInt8 :=
  literalBytes "  [" ++ (decimalText r.index ++ ascii ']' :: ascii ' ' ::
    ((((r.name ++ literalBytes "  state")
      ++ ascii '=' :: (faultStateName r.state ++ literalBytes "  count"))
      ++ ascii '=' :: (decimalText r.count ++ literalBytes "  history"))
      ++ ascii '=' :: (faultHistoryName r.history ++ [ascii '\r'])))

theorem statusLine_body (index : Nat) (f : Fault) :
    statusLine index f = (faultReport index f).body ++ [ascii '\n'] := by
  have hbracket : literalBytes "] " = [ascii ']', ascii ' '] := by decide
  have hstate : literalBytes "  state=" = literalBytes "  state" ++ [ascii '='] := by decide
  have hcount : literalBytes "  count=" = literalBytes "  count" ++ [ascii '='] := by decide
  have hhistory : literalBytes "  history=" = literalBytes "  history" ++ [ascii '='] := by decide
  have hend : literalBytes "\r\n" = [ascii '\r', ascii '\n'] := by decide
  unfold statusLine FaultReport.body faultReport
  rw [hbracket, hstate, hcount, hhistory, hend]
  simp only [List.append_assoc, List.cons_append, List.nil_append]

theorem stateName_not_mem (s : FaultState) :
    ascii '=' ∉ faultStateName s ++ literalBytes "  count" := by
  cases s <;> decide

theorem historyName_not_mem (b : Bool) : ascii '=' ∉ faultHistoryName b ++ [ascii '\r'] := by
  cases b <;> decide

theorem stateName_inj {s s' : FaultState} (h : faultStateName s = faultStateName s') : s = s' := by
  revert h
  cases s <;> cases s' <;> decide

theorem historyName_inj {b b' : Bool} (h : faultHistoryName b = faultHistoryName b') : b = b' := by
  revert h
  cases b <;> cases b' <;> decide

/-- A decimal number has none of these characters. -/
theorem decimalText_not_mem {c : UInt8} (hc : ∀ k : Fin 16, digitChar k.val ≠ c) (n : Nat) :
    c ∉ decimalText n := numeralText_not_mem (by decide) (by decide) hc n

theorem decimalText_inj {n m : Nat} (h : decimalText n = decimalText m) : n = m :=
  numeralText_inj (by decide) (by decide) h

/-- **A line says one thing.** -/
theorem body_inj {r r' : FaultReport} (h : r.body = r'.body) : r = r' := by
  have hcount : ∀ r : FaultReport, ascii '=' ∉ decimalText r.count ++ literalBytes "  history" := by
    intro r hmem
    rcases List.mem_append.mp hmem with hmem | hmem
    · exact decimalText_not_mem (by decide) r.count hmem
    · exact absurd hmem (by decide)
  -- the index from the left, and the rest from the right
  obtain ⟨hindex, hrest⟩ := split_first (decimalText_not_mem (by decide) _)
    (decimalText_not_mem (by decide) _) (List.append_cancel_left h)
  obtain ⟨hrest, hhistory⟩ := split_last (historyName_not_mem _) (historyName_not_mem _)
    (List.cons.inj hrest).2
  obtain ⟨hrest, hnumber⟩ := split_last (hcount r) (hcount r') hrest
  obtain ⟨hname, hstate⟩ := split_last (stateName_not_mem _) (stateName_not_mem _) hrest
  obtain ⟨index, name, state, count, history⟩ := r
  obtain ⟨index', name', state', count', history'⟩ := r'
  obtain rfl : index = index' := decimalText_inj hindex
  obtain rfl : name = name' := List.append_cancel_right hname
  obtain rfl : state = state' := stateName_inj (List.append_cancel_right hstate)
  obtain rfl : count = count' := decimalText_inj (List.append_cancel_right hnumber)
  obtain rfl : history = history' := historyName_inj (List.append_cancel_right hhistory)
  rfl

/-- It ends with the line feed that is not in the name. -/
theorem body_not_mem {r : FaultReport} (h : ascii '\n' ∉ r.name) : ascii '\n' ∉ r.body := by
  have hdecimal : ∀ n, ascii '\n' ∉ decimalText n := decimalText_not_mem (by decide)
  have hstate : ascii '\n' ∉ faultStateName r.state := by
    cases r.state <;> decide
  have hhistory : ascii '\n' ∉ faultHistoryName r.history := by
    cases r.history <;> decide
  have hliterals : ascii '\n' ∉ literalBytes "  [" ∧ ascii '\n' ∉ literalBytes "  state"
      ∧ ascii '\n' ∉ literalBytes "  count" ∧ ascii '\n' ∉ literalBytes "  history"
      ∧ ascii '\n' ≠ ascii ']' ∧ ascii '\n' ≠ ascii ' ' ∧ ascii '\n' ≠ ascii '='
      ∧ ascii '\n' ≠ ascii '\r' := by decide
  unfold FaultReport.body
  simp only [List.mem_append, List.mem_cons, List.not_mem_nil, or_false, not_or]
  simp [h, hdecimal, hstate, hhistory, hliterals]

/-! ## The report -/

section

variable {n n' : Nat} {w : FaultWorld n} {w' : FaultWorld n'}

/-- What the report says of the faults. -/
def faultReports (w : FaultWorld n) : List FaultReport :=
  (registeredFaults w).map fun i => faultReport i.val (w.fault i)

/-- No name has a line feed in it. -/
def OneLine (w : FaultWorld n) : Prop := ∀ r ∈ faultReports w, ascii '\n' ∉ r.name

/-- A report, by what it says. -/
def reportText (count active history : Nat) (faults : List FaultReport) : List UInt8 :=
  statusRule ++ (literalBytes "FAULT STATUS (" ++ (decimalText count ++ ascii ' ' ::
    (literalBytes "registered)\r\nactive_mask  = 0x" ++ (numeralText 16 active ++ ascii '\r' ::
      (literalBytes "\nhistory_mask = 0x" ++ (numeralText 16 history ++ ascii '\r' ::
        (literalBytes "\n" ++ (statusRule
          ++ ((faults.flatMap fun r => r.body ++ [ascii '\n']) ++ statusRule)))))))))

theorem statusText_report (w : FaultWorld n) (active history : Nat) :
    statusText w active history
      = reportText w.sys.faultCount active history (faultReports w) := by
  have hhead : literalBytes " registered)\r\n" ++ literalBytes "active_mask  = 0x"
      = ascii ' ' :: literalBytes "registered)\r\nactive_mask  = 0x" := by decide
  have hmask : literalBytes "\r\n" ++ literalBytes "history_mask = 0x"
      = ascii '\r' :: literalBytes "\nhistory_mask = 0x" := by decide
  have hend : literalBytes "\r\n" = ascii '\r' :: literalBytes "\n" := by decide
  have hlines : (registeredFaults w).flatMap (fun i => statusLine i.val (w.fault i))
      = (faultReports w).flatMap fun r => r.body ++ [ascii '\n'] := by
    unfold faultReports
    rw [List.flatMap_map]
    simp only [statusLine_body]
  unfold statusText reportText
  rw [hlines]
  generalize (faultReports w).flatMap (fun r => r.body ++ [ascii '\n']) = lines
  simp only [List.append_assoc]
  rw [← List.append_assoc (literalBytes " registered)\r\n"), hhead,
    ← List.append_assoc (literalBytes "\r\n") (literalBytes "history_mask = 0x"), hmask, hend]
  rfl

/-- No line begins as the rule does. -/
theorem statusRule_ne_line (r : FaultReport) (rest : List UInt8) :
    statusRule ≠ r.body ++ ascii '\n' :: rest := by
  intro h
  have hhead := congrArg List.head? h
  have hrule : statusRule.head? = some (ascii '=') := by decide
  have hbody : (r.body ++ ascii '\n' :: rest).head? = some (ascii ' ') := rfl
  rw [hrule, hbody] at hhead
  exact absurd (Option.some.inj hhead) (by decide)

/-- **A report says one thing.** -/
theorem reportText_inj {count count' active active' history history' : Nat}
    {faults faults' : List FaultReport} (hf : ∀ r ∈ faults, ascii '\n' ∉ r.name)
    (hf' : ∀ r ∈ faults', ascii '\n' ∉ r.name)
    (h : reportText count active history faults = reportText count' active' history' faults') :
    faults = faults' ∧ active = active' ∧ history = history' := by
  have hhex : ∀ m, ascii '\r' ∉ numeralText 16 m :=
    numeralText_not_mem (by decide) (by decide) (by decide)
  -- the head, from the left
  obtain ⟨_, h⟩ := split_first (decimalText_not_mem (by decide) _)
    (decimalText_not_mem (by decide) _) (List.append_cancel_left (List.append_cancel_left h))
  obtain ⟨hactive, h⟩ := split_first (hhex _) (hhex _) (List.append_cancel_left h)
  obtain ⟨hhistory, h⟩ := split_first (hhex _) (hhex _) (List.append_cancel_left h)
  have hlines := List.append_cancel_left (List.append_cancel_left h)
  refine ⟨?_, numeralText_inj (by decide) (by decide) hactive,
    numeralText_inj (by decide) (by decide) hhistory⟩
  exact records_injective statusRule_ne_line (fun r hr => body_not_mem (hf r hr))
    (fun r hr => body_not_mem (hf' r hr)) (fun _ _ _ _ => body_inj) hlines

/-- These are the bytes a report sends. -/
def SendsStatus (w : FaultWorld n) (text : List UInt8) : Prop :=
  ∃ calls, (faultPrintStatus w).trace = w.trace ++ calls.map .uprint ∧ Transmits calls text

theorem Transmits.unique {calls : List UprintCall} {text text' : List UInt8}
    (h : Transmits calls text) (h' : Transmits calls text') : text = text' := by
  obtain ⟨texts, hall, rfl⟩ := h
  obtain ⟨texts', hall', rfl⟩ := h'
  have htexts : texts = texts' := by
    induction hall generalizing texts' with
    | nil =>
        cases hall'
        rfl
    | cons hprints _ ih =>
        cases hall' with
        | cons hprints' hrest' => rw [hprints.unique hprints', ih _ hrest']
  rw [htexts]

theorem sendsStatus_iff (hn : n ≤ 32) (h : StatusOk w) (text : List UInt8) :
    SendsStatus w text ↔ text
      = reportText w.sys.faultCount w.sys.activeMask.toNat w.sys.historyMask.toNat
        (faultReports w) := by
  have hreports := (faultPrintStatus_reports w).trace
  have htransmit := statusCalls_transmit hn h.masks.index fun i hi => (h.pointers.usable i hi).name
  rw [← statusText_report]
  constructor
  · intro ⟨calls, htrace, htext⟩
    rw [htrace] at hreports
    have hcalls : calls = statusCalls w := by
      refine List.map_injective_iff.mpr ?_ (List.append_cancel_left hreports)
      intro c c' hc
      cases hc
      rfl
    rw [hcalls] at htext
    exact htext.unique htransmit
  · rintro rfl
    exact ⟨statusCalls w, hreports, htransmit⟩

/--
**The status report can be read back.**

Two fault systems, of any sizes and after any calls and reports that register faults with
names, none of them with a line feed in it: if their status reports send the same bytes, they
have the same faults, in order, with the same names, states, counts and histories, and the
same two masks. Spaces, brackets, equals signs and whole pieces of a report may be in a name.
-/
theorem status_report_readable (n n' : Nat) (hn : n ≤ 32) (hn' : n' ≤ 32)
    (uses : List (FaultUse n)) (uses' : List (FaultUse n'))
    (hnamed : ∀ use ∈ uses, UseNamed use) (hnamed' : ∀ use ∈ uses', UseNamed use)
    (text : List UInt8) :
    let w := faultUses (FaultWorld.init n) uses
    let w' := faultUses (FaultWorld.init n') uses'
    OneLine w → OneLine w' → SendsStatus w text → SendsStatus w' text →
      faultReports w = faultReports w'
        ∧ w.sys.activeMask.toNat = w'.sys.activeMask.toNat
        ∧ w.sys.historyMask.toNat = w'.sys.historyMask.toNat := by
  intro w w' hline hline' hsends hsends'
  have hw : StatusOk w := faultUses_statusOk hn (statusOk_init n) uses hnamed
  have hw' : StatusOk w' := faultUses_statusOk hn' (statusOk_init n') uses' hnamed'
  have htext := (sendsStatus_iff hn hw text).mp hsends
  rw [(sendsStatus_iff hn' hw' text).mp hsends'] at htext
  obtain ⟨hreports, hactive, hhistory⟩ := reportText_inj hline' hline htext
  exact ⟨hreports.symm, hactive.symm, hhistory.symm⟩

end

/-- A latched fault that triggers and is cleared. -/
def latchedUses : List (FaultUse 1) :=
  [.call (.register (some ⟨some [ascii 'a'], some 1, some 2, none, 0⟩)),
    .call (.update fun _ => ⟨0, 0, .done, true, .done⟩), .call (.clear 0 .done false .done)]

/-- A fault with a cooldown, of which the name ends before the `b`. -/
def cooledUses : List (FaultUse 3) :=
  [.call (.register (some ⟨some [ascii 'a', 0, ascii 'b'], some 4, some 5, some 6, 500⟩)),
    .call (.update fun _ => ⟨0, 0, .done, true, .done⟩), .printStatus,
    .call (.update fun _ => ⟨500, 500, .done, false, .done⟩)]

theorem status_report_readable_cooled :
    faultReports (faultUses (FaultWorld.init 1) latchedUses)
      = faultReports (faultUses (FaultWorld.init 3) cooledUses) := by
  have hnamed : ∀ use ∈ latchedUses, UseNamed use := by
    simp [latchedUses, UseNamed, Named, ScriptNamed]
  have hnamed' : ∀ use ∈ cooledUses, UseNamed use := by
    simp [cooledUses, UseNamed, Named, ScriptNamed]
  have hok := faultUses_statusOk (by decide) (statusOk_init 1) latchedUses hnamed
  have hok' := faultUses_statusOk (by decide) (statusOk_init 3) cooledUses hnamed'
  have hreports : faultReports (faultUses (FaultWorld.init 1) latchedUses)
      = [⟨0, [ascii 'a'], .idle, 1, true⟩] := by decide
  have hreports' : faultReports (faultUses (FaultWorld.init 3) cooledUses)
      = [⟨0, [ascii 'a'], .idle, 1, true⟩] := by decide
  refine (status_report_readable 1 3 (by decide) (by decide) latchedUses cooledUses hnamed hnamed'
    (reportText 1 0 1 [⟨0, [ascii 'a'], .idle, 1, true⟩]) ?_ ?_ ?_ ?_).1
  · unfold OneLine
    rw [hreports]
    decide
  · unfold OneLine
    rw [hreports']
    decide
  · rw [sendsStatus_iff (by decide) hok, hreports]
    rfl
  · rw [sendsStatus_iff (by decide) hok', hreports']
    rfl

end FwCore.Proof
