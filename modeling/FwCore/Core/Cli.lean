import FwCore.Core.Uprint
import FwCore.Lib.Feed

/-!
# The command line (`core/cli.c`)

`cli_update` takes whatever bytes the port has by now, one after the other, so a line
may reach it in pieces. The bytes of the unfinished line are kept in `cli_buffer`; a
line end writes a NUL behind them and hands the buffer over to `cli_dispatch`, which
looks the line up in the table of commands.

A port is read through `comm_data_available` and `comm_receive`. A call of `cli_update`
is given the bytes that are unread until the port has no more: the loop takes the first
of them each time, and ends with the last.

`none` stands for what C does not define: a byte written outside the buffer, or read
behind it because no NUL stops the scan.
-/

namespace FwCore

open Lib

/-- A byte string as C reads it from memory: what comes before the first NUL. -/
def cstrOf (mem : List UInt8) : CStr := mem.takeWhile (· ≠ 0)

/-- `strcmp`. -/
def strcmp : CStr → CStr → Int
  | [], [] => 0
  | [], b :: _ => -(b.toNat : Int)
  | a :: _, [] => a.toNat
  | a :: s, b :: t => if a = b then strcmp s t else (a.toNat : Int) - b.toNat

/-- `command_t`. -/
structure Command where
  name : CStr
  /-- The address of the function. -/
  execute : Nat
  help : CStr
  /-- `name` is the string as C reads it. -/
  name_ne : ∀ b ∈ name, b ≠ 0

/-- `cli_table`, as far as `cli_table_len` says. -/
structure CommandTable where
  entries : List Command
  /-- `cli_table_len` is a `uint32_t`. -/
  length_lt : entries.length < 4294967296

/-- `CLI_BUFFER_SIZE`. -/
def cliBufferSize : Nat := 64

/-- The data of the module. -/
structure Cli where
  commId : UInt8
  table : Option CommandTable
  buffer : Vector UInt8 cliBufferSize
  idx : Nat

/-- The data before any call: static storage is zeroed. -/
def Cli.zeroed : Cli := ⟨0, none, Vector.replicate cliBufferSize 0, 0⟩

/-- What the module does to the world. -/
inductive CliEvent where
  /-- `comm_send` of one byte. -/
  | send (commId : UInt8) (byte : UInt8)
  /-- `cli_table[i].execute()`. -/
  | execute (i : Nat) (fn : Nat)
  | uprint (call : UprintCall)
deriving DecidableEq, Repr

/-- `cli_setup`. -/
def cliSetup (s : Cli) (commId : UInt8) (table : Option CommandTable) : Cli :=
  match table with
  | none => s
  | some table => { s with commId := commId, table := some table }

/-- The report of `cli_dispatch` on a line that is no command. -/
def cliUnknown (line : CStr) : CliEvent :=
  .uprint ⟨"Unknown command: '%s'\r\n", [.str (some line)]⟩

/-- The loop of `cli_dispatch`, from the `i`-th entry on. -/
def cliDispatchLoop (line : CStr) : Nat → List Command → List CliEvent
  | _, [] => [cliUnknown line]
  | i, cmd :: cmds =>
    if strcmp line cmd.name = 0 then [.execute i cmd.execute]
    else cliDispatchLoop line (i + 1) cmds

/-- `cli_dispatch`. -/
def cliDispatch (table : Option CommandTable) (buffer : List UInt8) : Option (List CliEvent) :=
  match table with
  | none => some []
  | some table =>
    match buffer with
    | [] => none
    | b :: _ =>
      if b = 0 then some []
      else if 0 ∈ buffer then some (cliDispatchLoop (cstrOf buffer) 0 table.entries)
      else none

/-- `cli_buffer[cli_idx] = ch`. -/
def Cli.store (s : Cli) (ch : UInt8) : Option Cli :=
  if h : s.idx < cliBufferSize then some { s with buffer := s.buffer.set s.idx ch h } else none

/-- One pass of the loop of `cli_update`, which has received `ch`. -/
def cliReceive (s : Cli) (ch : UInt8) : Option (Cli × List CliEvent) :=
  let sent := [CliEvent.send s.commId ch]
  let (ch, sent) :=
    if ch = ascii '\r' then (ascii '\n', sent ++ [.send s.commId (ascii '\n')]) else (ch, sent)
  if ch = ascii '\n' then
    match s.store 0 with
    | none => none
    | some s =>
      let s := { s with idx := 0 }
      (cliDispatch s.table s.buffer.toList).map fun done => (s, sent ++ done)
  else if s.idx < cliBufferSize - 1 then
    (s.store ch).map fun s => ({ s with idx := s.idx + 1 }, sent)
  else some (s, sent)

/-- `cli_update`, called while these bytes are unread. -/
def cliUpdate (s : Cli) (unread : List UInt8) : Option (Cli × List CliEvent) :=
  feed cliReceive s unread

/-- Successive calls of `cli_update`. -/
def cliRun (s : Cli) (calls : List (List UInt8)) : Option (Cli × List CliEvent) :=
  feed cliUpdate s calls

/-- `cli_help`. -/
def cliHelp (s : Cli) : List UprintCall :=
  match s.table with
  | none => []
  | some table =>
    [⟨"===================================\r\n", []⟩]
      ++ table.entries.map (fun cmd => ⟨"%s: %s\r\n", [.str (some cmd.name), .str (some cmd.help)]⟩)
      ++ [⟨"===================================\r\n", []⟩]

end FwCore
