import FwCore.Core.SimpleTimer
import FwCore.Core.Uprint

/-!
# The cooperative scheduler (`core/ticker.c`)

A table of tasks, each with a period, is handed to `ticker_init` once; the main
loop then calls `ticker_update` as often as it can. Every task owns one
auto-reset timer, and an update polls the timers in table order and calls the
task of each one that answers.

`timebase_get()` is read once per timer, so a slow task moves the clock seen by
the tasks after it. A clock is therefore a function of the table position, and a
run of updates is driven by one such function per update.
-/

namespace FwCore

/-- `TICKER_MAX_TASKS`. -/
def tickerMaxTasks : Nat := 16

/-- `ticker_task_t`. A function pointer is just its identity. -/
structure TickerTask where
  fn : Nat
  periodMs : UInt32
  name : Option CStr
deriving DecidableEq, Repr

/-- `ticker_entry_t`. -/
structure TickerEntry where
  desc : TickerTask
  timer : SimpleTimer
deriving DecidableEq, Repr

/-- The module's static data: the first `_count` slots of `_entries`. -/
structure Ticker where
  entries : List TickerEntry
deriving DecidableEq, Repr

/-- Before `ticker_init`, `_count` is zero. -/
def Ticker.zeroed : Ticker := ⟨[]⟩

/--
`ticker_init`, with the `uprint` calls it makes. The table comes with its length,
as `TICKER_TASK_COUNT` computes it; `clock i` is the reading taken while entry
`i` is armed.
-/
def tickerInit (st : Ticker) (tasks : Option (List TickerTask)) (clock : Nat → UInt64) :
    Ticker × List UprintCall :=
  match tasks with
  | none => (st, [])
  | some table =>
    if table.length = 0 then (st, [])
    else
      let count := if table.length > tickerMaxTasks then tickerMaxTasks else table.length
      let warning : List UprintCall :=
        if table.length > tickerMaxTasks then
          [⟨"[TICKER] Warning: %u tasks requested, only %u supported\r\n",
            [.unsigned (UInt32.ofNat table.length), .unsigned (UInt32.ofNat tickerMaxTasks)]⟩]
        else []
      let entries := (table.take count).mapIdx fun i task =>
        { desc := task, timer := simpleTimerSetup (clock i) task.periodMs.toUInt64 true }
      (⟨entries⟩, warning ++
        [⟨"[TICKER] Init OK - %u task(s) registered\r\n", [.unsigned (UInt32.ofNat count)]⟩])

/-- The loop of `ticker_update` from entry `i` on, and the entries whose `fn` it called. -/
def tickerUpdateFrom (clock : Nat → UInt64) : Nat → List TickerEntry → List TickerEntry × List Nat
  | _, [] => ([], [])
  | i, e :: es =>
    let polled := simpleTimerHasElapsed e.timer (clock i)
    let rest := tickerUpdateFrom clock (i + 1) es
    ({ e with timer := polled.2 } :: rest.1, if polled.1 then i :: rest.2 else rest.2)

/-- `ticker_update`: the entries afterwards, and the calls made, in order. -/
def tickerUpdate (st : Ticker) (clock : Nat → UInt64) : Ticker × List Nat :=
  let r := tickerUpdateFrom clock 0 st.entries
  (⟨r.1⟩, r.2)

/-- `ticker_print_tasks`. -/
def tickerPrintTasks (st : Ticker) : List UprintCall :=
  [⟨"===================================\r\n", []⟩,
    ⟨"TICKER - %u task(s)\r\n", [.unsigned (UInt32.ofNat st.entries.length)]⟩]
  ++ (st.entries.mapIdx fun i e =>
    ⟨"  [%u] %s  %u ms\r\n",
      [.unsigned (UInt32.ofNat i), .str e.desc.name, .unsigned e.desc.periodMs]⟩)
  ++ [⟨"===================================\r\n", []⟩]

/-! ## Runs -/

/-- The state after the first `m` updates, update `k` seeing the clock `clock k`. -/
def tickerAfter (st : Ticker) (clock : Nat → Nat → UInt64) : Nat → Ticker
  | 0 => st
  | m + 1 => (tickerUpdate (tickerAfter st clock m) (clock m)).1

/-- The calls made by update `k`. -/
def tickerCalls (st : Ticker) (clock : Nat → Nat → UInt64) (k : Nat) : List Nat :=
  (tickerUpdate (tickerAfter st clock k) (clock k)).2

/-- How often entry `i` was called in the first `m` updates. -/
def tickerCallCount (st : Ticker) (clock : Nat → Nat → UInt64) (i m : Nat) : Nat :=
  ((List.range m).flatMap (tickerCalls st clock)).count i

/-! ## Tasks that call the module -/

/--
What a task does with the module while it runs, and what a program does with it. In an update
`now i` is what position `i` reads of the clock, and `task i` what the task does that is
called there.
-/
inductive TaskScript where
  | done
  | init (tasks : Option (List TickerTask)) (clock : Nat → UInt64) (rest : TaskScript)
  | update (now : Nat → UInt64) (task : Nat → TaskScript) (rest : TaskScript)
  | printTasks (rest : TaskScript)

/-- What a call does, apart from the module's own data. -/
inductive TickerEvent where
  /-- A task is called. -/
  | call (fn : Nat)
  | uprint (message : UprintCall)
deriving DecidableEq, Repr

/--
The loop of `ticker_update` from position `i` on, of which a task may change the table and
the count. There are never more than `TICKER_MAX_TASKS` entries, which is the fuel it needs.
-/
def tickerLoop (now : Nat → UInt64) (task : Nat → Ticker → Ticker × List TickerEvent) :
    Nat → Nat → Ticker → Ticker × List TickerEvent
  | 0, _, st => (st, [])
  | fuel + 1, i, st =>
    match st.entries[i]? with
    | none => (st, [])
    | some e =>
      let polled := simpleTimerHasElapsed e.timer (now i)
      let st := Ticker.mk (st.entries.set i { e with timer := polled.2 })
      if polled.1 then
        let called := task i st
        let rest := tickerLoop now task fuel (i + 1) called.1
        (rest.1, .call e.desc.fn :: (called.2 ++ rest.2))
      else tickerLoop now task fuel (i + 1) st

/-- The calls of a script, one after the other. -/
def runTask (fuel : Nat) : TaskScript → Ticker → Ticker × List TickerEvent
  | .done, st => (st, [])
  | .init tasks clock rest, st =>
    let armed := tickerInit st tasks clock
    let after := runTask fuel rest armed.1
    (after.1, armed.2.map .uprint ++ after.2)
  | .update now task rest, st =>
    let updated := tickerLoop now (fun i => runTask fuel (task i)) fuel 0 st
    let after := runTask fuel rest updated.1
    (after.1, updated.2 ++ after.2)
  | .printTasks rest, st =>
    let after := runTask fuel rest st
    (after.1, (tickerPrintTasks st).map .uprint ++ after.2)

end FwCore
