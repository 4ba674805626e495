import FwCore.Core.Console
import FwCore.Proof.CallerFormats
import FwCore.Proof.CliExact

/-!
# The command line is a console

Through any calls of the module, the setups between them included, the buffer holds what
counts of the line that has been typed. Each event is then what the console shows: bytes
sent back are bytes sent back, commands are commands, and a message, whatever was typed,
comes out as the text it is meant to be. In particular a `%` that somebody types is never
taken for a conversion, for a line is only ever an argument.
-/

namespace FwCore.Proof

open FwCore Lib

/-- An event, as it is seen. -/
inductive SeenAs : CliEvent → ConsoleOut → Prop where
  | send (port b : UInt8) : SeenAs (.send port b) (.echo port b)
  | execute (i fn : Nat) : SeenAs (.execute i fn) (.run i fn)
  | uprint {call : UprintCall} {text : List UInt8} :
      Prints call text → SeenAs (.uprint call) (.text text)

/-- Events, as they are seen. -/
abbrev SeenAllAs : List CliEvent → List ConsoleOut → Prop := List.Forall₂ SeenAs

theorem SeenAllAs.append {evs evs' : List CliEvent} {outs outs' : List ConsoleOut}
    (h : SeenAllAs evs outs) (h' : SeenAllAs evs' outs') :
    SeenAllAs (evs ++ evs') (outs ++ outs') := List.rel_append h h'

/-! ## Messages -/

/-- A string without a NUL is printed whole. -/
theorem nameText_eq {name : CStr} (h : ∀ b ∈ name, b ≠ 0) : nameText name = name :=
  cstrOf_eq_self h

theorem unknown_seen {name : CStr} (h : ∀ b ∈ name, b ≠ 0) :
    SeenAs (cliUnknown name) (.text (unknownText name)) := by
  have hfmt : MadeOf "Unknown command: '%s'\r\n"
      (nameParts "Unknown command: '" "'\r\n" []) := by decide
  have hprints := prints_name hfmt (rfl : rendered [] [] = some ([], [])) name
  rw [List.append_nil, nameText_eq h] at hprints
  exact .uprint hprints

theorem helpRule_seen : SeenAs (.uprint ⟨"===================================\r\n", []⟩)
    (.text helpRule) := by
  have hfmt : MadeOf "===================================\r\n"
      (literals "===================================\r\n") := by decide
  exact .uprint (prints_of_parts hfmt.1 hfmt.2 (rendered_end _ _))

theorem helpLine_seen (cmd : Command) :
    SeenAs (.uprint ⟨"%s: %s\r\n", [.str (some cmd.name), .str (some cmd.help)]⟩)
      (.text (helpText cmd)) := by
  have hfmt : MadeOf "%s: %s\r\n" (nameParts "" ": " (.convert .string :: literals "\r\n")) := by
    decide
  have htail : rendered (.convert .string :: literals "\r\n") [.str (some cmd.help)]
      = some (cstrOf cmd.help ++ literalBytes "\r\n", []) := by
    rw [rendered, rendered_end]
    rfl
  have hprints := prints_name hfmt htail cmd.name
  rw [nameText_eq cmd.name_ne] at hprints
  have htext : literalBytes "" ++ cmd.name ++ literalBytes ": "
      ++ (cstrOf cmd.help ++ literalBytes "\r\n") = helpText cmd := by
    show cmd.name ++ literalBytes ": " ++ _ = cmd.name ++ literalBytes ": " ++ _ ++ _
    rw [List.append_assoc (cmd.name ++ literalBytes ": ")]
    rfl
  exact .uprint (htext ▸ hprints)

/-! ## Dispatch -/

/-- The loop finds what `find?` finds. -/
theorem dispatchLoop_seen {name : CStr} (hname : ∀ b ∈ name, b ≠ 0) (cmds : List Command)
    (start : Nat) : SeenAllAs (cliDispatchLoop name start cmds)
      (match (cmds.zipIdx start).find? fun e => e.1.name = name with
        | some e => [.run e.2 e.1.execute]
        | none => [.text (unknownText name)]) := by
  induction cmds generalizing start with
  | nil => exact .cons (unknown_seen hname) .nil
  | cons cmd cmds ih =>
      rw [cliDispatchLoop, List.zipIdx_cons, List.find?_cons]
      by_cases heq : cmd.name = name
      · have hcmp : strcmp name cmd.name = 0 := (strcmp_eq_zero hname cmd.name_ne).mpr heq.symm
        rw [if_pos hcmp, decide_eq_true heq]
        exact .cons (.execute start cmd.execute) .nil
      · have hcmp : strcmp name cmd.name ≠ 0 := fun h =>
          heq ((strcmp_eq_zero hname cmd.name_ne).mp h).symm
        rw [if_neg hcmp, decide_eq_false heq]
        exact ih (start + 1)

theorem lineActions_seen (table : CommandTable) (line : List UInt8) :
    SeenAllAs (lineActions table line) (table.dispatch (lineName line)) := by
  unfold CommandTable.dispatch
  show SeenAllAs (if lineName line = [] then [] else cliDispatchLoop (lineName line) 0 _) _
  by_cases hempty : lineName line = []
  · rw [if_pos hempty, if_pos hempty]
    exact .nil
  · rw [if_neg hempty, if_neg hempty]
    exact dispatchLoop_seen (cstrOf_ne_zero _) table.entries 0

theorem echo_seen (port b : UInt8) :
    SeenAllAs ((echo b).map (CliEvent.send port))
      (if b = ascii '\r' then [.echo port (ascii '\r'), .echo port (ascii '\n')]
        else [.echo port b]) := by
  unfold echo
  split
  · exact .cons (.send _ _) (.cons (.send _ _) .nil)
  · exact .cons (.send _ _) .nil

/-! ## The module follows the console -/

/-- The module when the console is in state `c`. -/
structure Follows (c : Console) (s : Cli) : Prop where
  port : s.commId = c.port
  table : s.table = c.table
  unfinished : ∀ b ∈ c.line, isLineEnd b = false
  idx : s.idx = min c.line.length (cliBufferSize - 1)
  kept : s.buffer.toList.take s.idx = c.line.take (cliBufferSize - 1)

variable {c : Console} {s : Cli}

theorem follows_zeroed : Follows .zeroed .zeroed where
  port := rfl
  table := rfl
  unfinished := fun _ hb => absurd hb List.not_mem_nil
  idx := rfl
  kept := rfl

/-- With a table put in. -/
theorem Follows.lineOpen (h : Follows c s) (table : CommandTable) :
    LineOpen c.port table c.line { s with table := some table } :=
  ⟨h.port, rfl, h.unfinished, h.idx, h.kept⟩

theorem Follows.of_lineOpen {port : UInt8} {table : CommandTable} {line : List UInt8}
    (h : LineOpen port table line s) (table' : Option CommandTable) :
    Follows ⟨port, table', line⟩ { s with table := table' } :=
  ⟨h.commId, rfl, h.unfinished, h.idx, h.kept⟩

/-- The table plays no part inside a line. -/
theorem cliReceive_table (s : Cli) {b : UInt8} (hb : isLineEnd b = false)
    (table : Option CommandTable) :
    cliReceive { s with table := table } b
      = (cliReceive s b).map fun r => ({ r.1 with table := table }, r.2) := by
  have hends : b ≠ ascii '\r' ∧ b ≠ ascii '\n' := by
    unfold isLineEnd at hb
    simpa using hb
  unfold cliReceive Cli.store
  simp only [hends.1, hends.2, if_false]
  split
  · split <;> rfl
  · rfl

/-- Without a table a line end only empties the line. -/
theorem cliReceive_deaf (htable : s.table = none) {b : UInt8} (hb : isLineEnd b = true)
    (hidx : s.idx < cliBufferSize) : ∃ buffer : Vector UInt8 cliBufferSize,
      cliReceive s b = some ({ s with buffer := buffer, idx := 0 },
        (echo b).map (CliEvent.send s.commId)) := by
  obtain ⟨buffer, hstore, -⟩ := store_spec 0 hidx
  have hends : b = ascii '\r' ∨ b = ascii '\n' := by
    unfold isLineEnd at hb
    simpa using hb
  refine ⟨buffer, ?_⟩
  unfold cliReceive
  rcases hends with rfl | rfl
  · dsimp only
    rw [if_pos rfl]
    dsimp only
    rw [if_pos rfl, hstore]
    dsimp only
    rw [htable]
    rfl
  · dsimp only
    rw [if_neg (show ascii '\n' ≠ ascii '\r' by decide)]
    dsimp only
    rw [if_pos rfl, hstore]
    dsimp only
    rw [htable]
    rfl

theorem isLineEnd_iff (b : UInt8) : isLineEnd b = true ↔ endsLine b := by
  unfold isLineEnd endsLine
  simp

/-- A byte is typed. -/
theorem cliReceive_console (h : Follows c s) (b : UInt8) :
    ∃ s' evs, cliReceive s b = some (s', evs) ∧ Follows (c.receive b).1 s'
      ∧ SeenAllAs evs (c.receive b).2 := by
  unfold Console.receive
  cases hb : isLineEnd b with
  | false =>
      rw [if_neg (fun he => by rw [(isLineEnd_iff b).mpr he] at hb; cases hb)]
      -- any table will do, and an empty one is at hand
      obtain ⟨s', hstep, hopen⟩ := cliReceive_more (h.lineOpen ⟨[], by decide⟩) hb
      have htable := cliReceive_table { s with table := some ⟨[], by decide⟩ } hb s.table
      rw [hstep] at htable
      refine ⟨_, _, htable, ?_, .cons (.send _ _) .nil⟩
      rw [h.table]
      exact .of_lineOpen hopen c.table
  | true =>
      have hends := (isLineEnd_iff b).mp hb
      rw [if_pos hends]
      cases htable : c.table with
      | none =>
          have hidx := (h.lineOpen ⟨[], by decide⟩).idx_lt
          obtain ⟨buffer, hstep⟩ := cliReceive_deaf (h.table.trans htable) hb hidx
          refine ⟨_, _, hstep, ⟨h.port, h.table.trans htable, ?_, rfl, ?_⟩, ?_⟩
          · exact fun x hx => absurd hx List.not_mem_nil
          · rw [List.take_zero, List.take_nil]
          · rw [h.port, Option.map_none, Option.getD_none, List.append_nil]
            exact echo_seen c.port b
      | some table =>
          have hline : LineOpen c.port table c.line s :=
            ⟨h.port, h.table.trans htable, h.unfinished, h.idx, h.kept⟩
          obtain ⟨s', hstep, hopen⟩ := cliReceive_end hline hb
          refine ⟨_, _, hstep, ⟨hopen.commId, hopen.table, hopen.unfinished, hopen.idx,
            hopen.kept⟩, ?_⟩
          exact (echo_seen c.port b).append (lineActions_seen table c.line)

/-- Bytes are typed. -/
theorem cliUpdate_console (h : Follows c s) (unread : List UInt8) :
    ∃ s' evs, cliUpdate s unread = some (s', evs) ∧ Follows (c.receiveAll unread).1 s'
      ∧ SeenAllAs evs (c.receiveAll unread).2 := by
  induction unread generalizing c s with
  | nil => exact ⟨s, [], rfl, h, .nil⟩
  | cons b unread ih =>
      obtain ⟨s₁, evs, hstep, h₁, hseen⟩ := cliReceive_console h b
      obtain ⟨s₂, rest, hrun, h₂, hrest⟩ := ih h₁
      exact ⟨s₂, evs ++ rest, feed_cons hstep hrun, h₂, hseen.append hrest⟩

/-! ## Calls -/

theorem cliHelp_seen (table : CommandTable) :
    SeenAllAs ((cliHelp { s with table := some table }).map .uprint)
      ([.text helpRule] ++ table.entries.map (fun cmd => .text (helpText cmd))
        ++ [.text helpRule]) := by
  unfold cliHelp
  dsimp only
  rw [List.map_append, List.map_append, List.map_map]
  have hlines : SeenAllAs (table.entries.map (CliEvent.uprint ∘
        fun cmd => ⟨"%s: %s\r\n", [.str (some cmd.name), .str (some cmd.help)]⟩))
      (table.entries.map fun cmd => .text (helpText cmd)) := by
    refine List.forall₂_map_left_iff.mpr (List.forall₂_map_right_iff.mpr ?_)
    exact List.forall₂_same.mpr fun cmd _ => helpLine_seen cmd
  exact .append (.append (.cons helpRule_seen .nil) hlines) (.cons helpRule_seen .nil)

/-- A call is the console's. -/
theorem consoleCall_console (h : Follows c s) (op : ConsoleOp) :
    ∃ s' evs, consoleCall s op = some (s', evs) ∧ Follows (c.call op).1 s'
      ∧ SeenAllAs evs (c.call op).2 := by
  cases op with
  | setup commId table =>
      refine ⟨_, _, rfl, ?_, .nil⟩
      cases table with
      | none => exact h
      | some table => exact ⟨rfl, rfl, h.unfinished, h.idx, h.kept⟩
  | update unread => exact cliUpdate_console h unread
  | help =>
      refine ⟨_, _, rfl, h, ?_⟩
      unfold Console.call
      rcases s with ⟨commId, table, buffer, idx⟩
      obtain rfl : table = c.table := h.table
      cases c.table with
      | none => exact .nil
      | some table => exact cliHelp_seen (s := ⟨commId, none, buffer, idx⟩) table

/-- Calls are the console's. -/
theorem consoleRun_console (h : Follows c s) (ops : List ConsoleOp) :
    ∃ s' evs, consoleRun s ops = some (s', evs) ∧ Follows (c.run ops).1 s'
      ∧ SeenAllAs evs (c.run ops).2 := by
  induction ops generalizing c s with
  | nil => exact ⟨s, [], rfl, h, .nil⟩
  | cons op ops ih =>
      obtain ⟨s₁, evs, hstep, h₁, hseen⟩ := consoleCall_console h op
      obtain ⟨s₂, rest, hrun, h₂, hrest⟩ := ih h₁
      exact ⟨s₂, evs ++ rest, feed_cons hstep hrun, h₂, hseen.append hrest⟩

/--
**The command line is a console**, whatever is called in whatever order, set up or not.

No call leaves the buffer or prints a message that has no text, and what is seen from the
first call on, byte for byte, is what the console shows: the echo of what is typed on the
port of the time; at each line end the first command of that name in the table of the time,
or the report of the line in its own bytes; the help. Of an unfinished line, typed over any
number of calls and under any number of tables, the buffer holds what will count of it.
-/
theorem command_line_is_console (ops : List ConsoleOp) :
    ∃ s evs, consoleRun .zeroed ops = some (s, evs)
      ∧ SeenAllAs evs (Console.zeroed.run ops).2
      ∧ Follows (Console.zeroed.run ops).1 s := by
  obtain ⟨s, evs, hrun, h, hseen⟩ := consoleRun_console follows_zeroed ops
  exact ⟨s, evs, hrun, hseen, h⟩

end FwCore.Proof
