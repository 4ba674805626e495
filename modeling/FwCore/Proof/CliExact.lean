import FwCore.Proof.CliLines
import Mathlib.Data.List.TakeWhile

/-!
# Which line executes which command

A line is compared with the names of the commands as far as it was kept: its first 63
bytes, and of those what comes before a NUL. `keptPart` is that, and it is the line
itself if the line is no longer and has no NUL. Any other line goes for a shorter one.
-/

namespace FwCore.Proof

open FwCore Lib

/-- What is left of a line when it is compared with a name. -/
def keptPart (line : List UInt8) : CStr := cstrOf (line.take 63)

theorem cstrOf_ne_zero (s : List UInt8) : ∀ b ∈ cstrOf s, b ≠ 0 := by
  intro b hb
  unfold cstrOf at hb
  simpa using List.mem_takeWhile_imp hb

/-- **All of a line is left exactly if it fits and has no NUL.** -/
theorem keptPart_eq_iff (line : List UInt8) :
    keptPart line = line ↔ line.length ≤ 63 ∧ 0 ∉ line := by
  unfold keptPart
  constructor
  · intro h
    refine ⟨?_, fun h0 => ?_⟩
    · have hlen := congrArg List.length h
      have hcut : (cstrOf (line.take 63)).length ≤ (line.take 63).length :=
        (List.takeWhile_sublist _).length_le
      rw [List.length_take] at hcut
      omega
    · rw [← h] at h0
      exact cstrOf_ne_zero _ 0 h0 rfl
  · intro ⟨hlen, h0⟩
    rw [List.take_of_length_le hlen]
    exact cstrOf_eq_self fun b hb h => h0 (h ▸ hb)

theorem FirstNamed.unique {cmds : List Command} {name : CStr} {i j : Nat} {cmd cmd' : Command}
    (h : FirstNamed cmds name i cmd) (h' : FirstNamed cmds name j cmd') : i = j ∧ cmd = cmd' := by
  have hij : i = j := by
    rcases Nat.lt_trichotomy i j with hlt | heq | hlt
    · exact absurd h.name (h'.first i hlt cmd h.entry)
    · exact heq
    · exact absurd h'.name (h.first j hlt cmd' h'.entry)
  subst hij
  exact ⟨rfl, Option.some.inj (h.entry.symm.trans h'.entry)⟩

/-- **A line executes the first command of the name that is left of it**, and no other. -/
theorem lineActions_executes (table : CommandTable) (line : List UInt8) (i fn : Nat) :
    .execute i fn ∈ lineActions table line ↔ keptPart line ≠ []
      ∧ ∃ cmd, FirstNamed table.entries (keptPart line) i cmd ∧ fn = cmd.execute := by
  show .execute i fn ∈ (if keptPart line = [] then []
    else cliDispatchLoop (keptPart line) 0 table.entries) ↔ _
  by_cases hkept : keptPart line = []
  · rw [if_pos hkept]
    exact iff_of_false List.not_mem_nil (fun h => h.1 hkept)
  · rw [if_neg hkept]
    rcases cliDispatchLoop_finds (cstrOf_ne_zero (line.take 63)) table.entries 0 with
      ⟨j, cmd, hfirst, hloop⟩ | ⟨hno, hloop⟩
    · -- there is a first one
      have hloop' : cliDispatchLoop (keptPart line) 0 table.entries = [.execute j cmd.execute] := by
        rw [Nat.zero_add] at hloop
        exact hloop
      rw [hloop', List.mem_singleton]
      constructor
      · intro h
        obtain ⟨rfl, rfl⟩ := CliEvent.execute.inj h
        exact ⟨hkept, cmd, hfirst, rfl⟩
      · intro ⟨_, cmd', hfirst', hfn⟩
        obtain ⟨rfl, rfl⟩ := hfirst.unique hfirst'
        rw [hfn]
    · -- there is none
      have hloop' : cliDispatchLoop (keptPart line) 0 table.entries
          = [cliUnknown (keptPart line)] := hloop
      rw [hloop', List.mem_singleton]
      refine iff_of_false (fun h => by simp [cliUnknown] at h) (fun ⟨_, cmd, hfirst, _⟩ => ?_)
      exact hno cmd (List.mem_of_getElem? hfirst.entry) hfirst.name

/--
**What a line executes, and when it is the line itself.**

For every table, every stream and every way of cutting it: each line that was finished
executed a command if and only if it is the first whose name is, byte for byte, what is
left of the line, its first 63 bytes up to a NUL. That is the complete line if and only if
the line has at most 63 bytes and no NUL.
-/
theorem cli_executes_kept (commId : UInt8) (table : CommandTable) (calls : List (List UInt8)) :
    ∃ s evs lines tail, cliRun (cliSetup .zeroed commId (some table)) calls = some (s, evs)
      ∧ calls.flatten.splitOnP (fun b => b = ascii '\r' || b = ascii '\n') = lines ++ [tail]
      ∧ actions evs = lines.flatMap (lineActions table)
      ∧ ∀ line ∈ lines,
        (∀ i fn, .execute i fn ∈ lineActions table line ↔ keptPart line ≠ []
          ∧ ∃ cmd, FirstNamed table.entries (keptPart line) i cmd ∧ fn = cmd.execute)
        ∧ (keptPart line = line ↔ line.length ≤ 63 ∧ 0 ∉ line) := by
  obtain ⟨s, evs, lines, tail, hrun, hsplit, _, _, hacts⟩ :=
    cliUpdate_lines commId table calls.flatten [] _ (cliSetup_open commId table)
  refine ⟨s, evs, lines, tail, ?_, hsplit, hacts, fun line _ =>
    ⟨lineActions_executes table line, keptPart_eq_iff line⟩⟩
  unfold cliRun
  rw [show cliUpdate = feed cliReceive from rfl, feed_flatten]
  exact hrun

/-- A table of one command. -/
def oneCommand (name : CStr) (h : ∀ b ∈ name, b ≠ 0) : CommandTable :=
  ⟨[⟨name, 1, [], h⟩], by simp⟩

/-- Every command that a line executes has the complete line for its name. -/
def ExecutesExactly (table : CommandTable) (line : List UInt8) : Prop :=
  ∀ i fn, .execute i fn ∈ lineActions table line →
    ∃ cmd, table.entries[i]? = some cmd ∧ cmd.name = line

/-- The command `on`. -/
def onTable : CommandTable := oneCommand [111, 110] (by simp)

/-- A command whose name has 63 letters. -/
def longTable : CommandTable := oneCommand (List.replicate 63 97) (by simp)

/--
The line `on`, a NUL and `x` executes the command `on`, and a line of 64 letters the one
whose name has 63.
-/
theorem cutLines_execute :
    ((cliRun (cliSetup .zeroed 1 (some onTable)) [[111, 110, 0, 120, ascii '\n']]).map (·.2)
        = some ([111, 110, 0, 120, ascii '\n'].map (CliEvent.send 1) ++ [.execute 0 1])
      ∧ ¬ExecutesExactly onTable [111, 110, 0, 120])
    ∧ ((cliRun (cliSetup .zeroed 1 (some longTable))
          [List.replicate 64 97 ++ [ascii '\n']]).map (·.2)
        = some ((List.replicate 64 97 ++ [ascii '\n']).map (CliEvent.send 1) ++ [.execute 0 1])
      ∧ ¬ExecutesExactly longTable (List.replicate 64 97)) := by
  refine ⟨⟨by decide, fun h => ?_⟩, ⟨by decide +kernel, fun h => ?_⟩⟩
  · obtain ⟨cmd, hcmd, hname⟩ := h 0 1 (by decide)
    obtain rfl := Option.some.inj hcmd
    exact absurd hname (by decide)
  · obtain ⟨cmd, hcmd, hname⟩ := h 0 1 (by decide +kernel)
    obtain rfl := Option.some.inj hcmd
    exact absurd hname (by decide)

end FwCore.Proof
