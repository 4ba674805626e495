import FwCore.Core.Console

/-!
# Commands that call the command line

`cli_help` is meant to be put in a table, and a command may as well install another table,
on another port, or ask for what has been typed in the meantime. By the time it runs the
line it was named in is over, and its pass of the loop in `cli_update` has nothing left to
do; the loop then goes on with the port and the table of the time.

The bytes that are unread wait at their ports in the order in which they came. They come
between the calls of the main program: one that comes during a call, while its port is still
being read, may as well have come before.
-/

namespace FwCore

open Lib

/-- Bytes that wait, each at its port. -/
abbrev Inbox := List (UInt8 × UInt8)

/-- `comm_data_available`, and `comm_receive` if there is a byte. -/
def Inbox.take (port : UInt8) : Inbox → Option (UInt8 × Inbox)
  | [] => none
  | entry :: rest =>
    if entry.1 = port then some (entry.2, rest)
    else (Inbox.take port rest).map fun r => (r.1, entry :: r.2)

/--
What a command does with the module while it runs, and what a program does with it. In an
update `command k` is what the command does that the `k`-th byte it takes completes.
-/
inductive CliScript where
  | done
  | setup (commId : UInt8) (table : Option CommandTable) (rest : CliScript)
  | help (rest : CliScript)
  | update (command : Nat → CliScript) (rest : CliScript)

/-! ## The module -/

/-- Its data, and what is unread. -/
structure CliWorld where
  cli : Cli
  inbox : Inbox

/-- A command is called. -/
def CliEvent.isExecute : CliEvent → Bool
  | .execute _ _ => true
  | .send _ _ => false
  | .uprint _ => false

/-- The loop of `cli_update`. Every pass takes a byte, so there are no more than bytes. -/
def cliLoop (command : Nat → CliWorld → Option (CliWorld × List CliEvent)) :
    Nat → Nat → CliWorld → Option (CliWorld × List CliEvent)
  | 0, _, w => some (w, [])
  | fuel + 1, k, w =>
    match w.inbox.take w.cli.commId with
    | none => some (w, [])
    | some (ch, inbox) => do
      let received ← cliReceive w.cli ch
      let called ←
        -- the command is the last thing that its pass does
        if received.2.any CliEvent.isExecute then command k ⟨received.1, inbox⟩
        else some (⟨received.1, inbox⟩, [])
      let rest ← cliLoop command fuel (k + 1) called.1
      some (rest.1, received.2 ++ (called.2 ++ rest.2))

/-- The calls of a script, one after the other. -/
def runCommand : CliScript → CliWorld → Option (CliWorld × List CliEvent)
  | .done, w => some (w, [])
  | .setup commId table rest, w => runCommand rest { w with cli := cliSetup w.cli commId table }
  | .help rest, w => do
    let after ← runCommand rest w
    some (after.1, (cliHelp w.cli).map .uprint ++ after.2)
  | .update command rest, w => do
    let updated ← cliLoop (fun k => runCommand (command k)) w.inbox.length 0 w
    let after ← runCommand rest updated.1
    some (after.1, updated.2 ++ after.2)

/-- A program: bytes come in, and calls are made. -/
def cliProgram (w : CliWorld) (turns : List (Inbox × CliScript)) :
    Option (CliWorld × List CliEvent) :=
  feed (fun w turn => runCommand turn.2 { w with inbox := w.inbox ++ turn.1 }) w turns

/-! ## Its purpose -/

/-- A console, and what is unread. -/
structure ConsoleWorld where
  console : Console
  inbox : Inbox

/-- A command is run. -/
def ConsoleOut.isRun : ConsoleOut → Bool
  | .run _ _ => true
  | .echo _ _ => false
  | .text _ => false

/-- What is unread at the port of the time is typed, and the commands are run. -/
def consoleLoop (command : Nat → ConsoleWorld → ConsoleWorld × List ConsoleOut) :
    Nat → Nat → ConsoleWorld → ConsoleWorld × List ConsoleOut
  | 0, _, c => (c, [])
  | fuel + 1, k, c =>
    match c.inbox.take c.console.port with
    | none => (c, [])
    | some (b, inbox) =>
      let received := c.console.receive b
      let called :=
        if received.2.any ConsoleOut.isRun then command k ⟨received.1, inbox⟩
        else (⟨received.1, inbox⟩, [])
      let rest := consoleLoop command fuel (k + 1) called.1
      (rest.1, received.2 ++ (called.2 ++ rest.2))

/-- A script, as it is meant. -/
def consoleScript : CliScript → ConsoleWorld → ConsoleWorld × List ConsoleOut
  | .done, c => (c, [])
  | .setup port table rest, c =>
    consoleScript rest { c with console := (c.console.call (.setup port table)).1 }
  | .help rest, c =>
    let after := consoleScript rest c
    (after.1, (c.console.call .help).2 ++ after.2)
  | .update command rest, c =>
    let updated := consoleLoop (fun k => consoleScript (command k)) c.inbox.length 0 c
    let after := consoleScript rest updated.1
    (after.1, updated.2 ++ after.2)

/-- A program, as it is meant. -/
def consoleProgram (c : ConsoleWorld) : List (Inbox × CliScript) → ConsoleWorld × List ConsoleOut
  | [] => (c, [])
  | turn :: turns =>
    let r := consoleScript turn.2 { c with inbox := c.inbox ++ turn.1 }
    let rest := consoleProgram r.1 turns
    (rest.1, r.2 ++ rest.2)

end FwCore
