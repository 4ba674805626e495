import FwCore.Core.Cli

/-!
# What the command line is for

Somebody types, and sees what is typed; at the end of a line the command of that name is
run, or the line is said to be none. `Console` says so with no buffer and no index: it
keeps the whole unfinished line. How much of a line counts is the one thing it takes
over from the module, `cliBufferSize`.

The module can be set up again at any time, for another port or another table. That does
not touch the unfinished line.
-/

namespace FwCore

open Lib

/-! ## The module -/

/-- The calls of the module. -/
inductive ConsoleOp where
  | setup (commId : UInt8) (table : Option CommandTable)
  /-- `cli_update`, while these bytes are unread. -/
  | update (unread : List UInt8)
  | help

/-- One call. -/
def consoleCall (s : Cli) : ConsoleOp → Option (Cli × List CliEvent)
  | .setup commId table => some (cliSetup s commId table, [])
  | .update unread => cliUpdate s unread
  | .help => some (s, (cliHelp s).map .uprint)

/-- A sequence of calls. -/
def consoleRun (s : Cli) (ops : List ConsoleOp) : Option (Cli × List CliEvent) :=
  feed consoleCall s ops

/-! ## Its purpose -/

/-- Where it reads and writes, what can be run, and the unfinished line. -/
structure Console where
  port : UInt8
  table : Option CommandTable
  line : List UInt8

/-- What there is to be seen of it. -/
inductive ConsoleOut where
  /-- A byte sent back to the port. -/
  | echo (port : UInt8) (byte : UInt8)
  /-- Text that is printed. -/
  | text (bytes : List UInt8)
  /-- The `i`-th command is run. -/
  | run (i : Nat) (fn : Nat)
deriving DecidableEq, Repr

/-- Nothing typed, and nothing to be run. -/
def Console.zeroed : Console := ⟨0, none, []⟩

/-- The bytes that end a line. -/
def endsLine (b : UInt8) : Prop := b = ascii '\r' ∨ b = ascii '\n'

instance (b : UInt8) : Decidable (endsLine b) := inferInstanceAs (Decidable (_ ∨ _))

/-- As much of a line as counts: what fits, up to a NUL. -/
def lineName (line : List UInt8) : CStr := cstrOf (line.take (cliBufferSize - 1))

/-- Text in quotes and around it. -/
def unknownText (name : CStr) : List UInt8 :=
  "Unknown command: '".toUTF8.data.toList ++ name ++ "'\r\n".toUTF8.data.toList

/-- The first command of a name is run, or there is none. -/
def CommandTable.dispatch (table : CommandTable) (name : CStr) : List ConsoleOut :=
  if name = [] then []
  else
    match table.entries.zipIdx.find? fun e => e.1.name = name with
    | some e => [.run e.2 e.1.execute]
    | none => [.text (unknownText name)]

/-- A byte is typed. -/
def Console.receive (c : Console) (b : UInt8) : Console × List ConsoleOut :=
  if endsLine b then
    ({ c with line := [] },
      (if b = ascii '\r' then [.echo c.port (ascii '\r'), .echo c.port (ascii '\n')]
        else [.echo c.port b])
      ++ (c.table.map fun table => table.dispatch (lineName c.line)).getD [])
  else ({ c with line := c.line ++ [b] }, [.echo c.port b])

/-- Bytes are typed. -/
def Console.receiveAll (c : Console) : List UInt8 → Console × List ConsoleOut
  | [] => (c, [])
  | b :: bs =>
    let r := c.receive b
    let rest := r.1.receiveAll bs
    (rest.1, r.2 ++ rest.2)

/-- The rule above and below the commands. -/
def helpRule : List UInt8 := "===================================\r\n".toUTF8.data.toList

/-- A line about a command. -/
def helpText (cmd : Command) : List UInt8 :=
  cmd.name ++ ": ".toUTF8.data.toList ++ cstrOf cmd.help ++ "\r\n".toUTF8.data.toList

/-- A call, as it is meant. -/
def Console.call (c : Console) : ConsoleOp → Console × List ConsoleOut
  | .setup port table => (if table.isSome then { c with port := port, table := table } else c, [])
  | .update unread => c.receiveAll unread
  | .help =>
    (c, (c.table.map fun table =>
      [.text helpRule] ++ table.entries.map (fun cmd => .text (helpText cmd))
        ++ [.text helpRule]).getD [])

/-- A sequence of calls. -/
def Console.run (c : Console) : List ConsoleOp → Console × List ConsoleOut
  | [] => (c, [])
  | op :: ops =>
    let r := c.call op
    let rest := r.1.run ops
    (rest.1, r.2 ++ rest.2)

end FwCore
