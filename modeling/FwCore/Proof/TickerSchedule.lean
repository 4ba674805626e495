import FwCore.Proof.FaultStatus
import FwCore.Proof.TickerLaw

/-!
# What the scheduler is for

A schedule has tasks and counts, and no timers. A task that was armed at some reading of the
clock and has been called so many times since is due once more a period later than it was
before, and the tasks that are due are called in the order of the table. Whatever the module
is asked, it calls the tasks and prints the texts that the schedule does: its timers are a
function of the arming, the period and the count.

A table can be installed at any time, and takes the place of the one before. One that is
empty is not installed, and of a long one the first sixteen tasks are. A task may do so as
well, in the middle of an update: the update then goes on in the new table. It may also
print the table, or call for an update of its own.
-/

namespace FwCore.Proof

open FwCore Lib

/-! ## Schedules -/

/-- A task that has been installed. -/
structure Slot where
  task : TickerTask
  /-- The clock when it was armed. -/
  armed : UInt64
  /-- And at each update since. -/
  polls : List UInt64
  /-- How often it has been called since. -/
  calls : Nat

/-- What there is to be seen of a schedule. -/
inductive ScheduleOut where
  | call (fn : Nat)
  /-- Text that is printed. -/
  | text (bytes : List UInt8)

/-- When it is due next. -/
def Slot.deadline (e : Slot) : UInt64 :=
  e.armed + UInt64.ofNat (e.calls + 1) * e.task.periodMs.toUInt64

/-- Whether it is due. -/
def Slot.due (e : Slot) (now : UInt64) : Bool := e.deadline ≤ now

/-- The clock is looked at. -/
def Slot.poll (e : Slot) (now : UInt64) : Slot :=
  { e with polls := e.polls ++ [now], calls := if e.due now then e.calls + 1 else e.calls }

/-- The first tasks of a table, armed. -/
def armedSlots (table : List TickerTask) (clock : Nat → UInt64) : List Slot :=
  (table.take tickerMaxTasks).mapIdx fun i task => ⟨task, clock i, [], 0⟩

/-- A table that is too long. -/
def excessText (count : Nat) : List UInt8 :=
  literalBytes "[TICKER] Warning: " ++ decimalText count ++ literalBytes " tasks requested, only "
    ++ decimalText tickerMaxTasks ++ literalBytes " supported\r\n"

/-- A table is installed. -/
def installedText (count : Nat) : List UInt8 :=
  literalBytes "[TICKER] Init OK - " ++ decimalText count ++ literalBytes " task(s) registered\r\n"

/-- The head of a listing. -/
def tasksText (count : Nat) : List UInt8 :=
  literalBytes "TICKER - " ++ decimalText count ++ literalBytes " task(s)\r\n"

/-- A line of it. -/
def taskText (i : Nat) (task : TickerTask) : List UInt8 :=
  literalBytes "  [" ++ decimalText i ++ literalBytes "] " ++ nameText (task.name.getD [])
    ++ literalBytes "  " ++ decimalText task.periodMs.toNat ++ literalBytes " ms\r\n"

/-- A table is installed, if it is one. -/
def scheduleInit (slots : List Slot) (tasks : Option (List TickerTask)) (clock : Nat → UInt64) :
    List Slot × List ScheduleOut :=
  match tasks with
  | none => (slots, [])
  | some table =>
    if table = [] then (slots, [])
    else
      (armedSlots table clock,
        (if tickerMaxTasks < table.length then [.text (excessText table.length)] else [])
          ++ [.text (installedText (armedSlots table clock).length)])

/-- A listing. -/
def scheduleListing (slots : List Slot) : List ScheduleOut :=
  [.text statusRule, .text (tasksText slots.length)]
    ++ (slots.zipIdx.map fun e => .text (taskText e.2 e.1.task)) ++ [.text statusRule]

/-- The rest of an update, from position `i` on. -/
def scheduleLoop (now : Nat → UInt64) (task : Nat → List Slot → List Slot × List ScheduleOut) :
    Nat → Nat → List Slot → List Slot × List ScheduleOut
  | 0, _, slots => (slots, [])
  | fuel + 1, i, slots =>
    match slots[i]? with
    | none => (slots, [])
    | some e =>
      let slots := slots.set i (e.poll (now i))
      if e.due (now i) then
        let called := task i slots
        let rest := scheduleLoop now task fuel (i + 1) called.1
        (rest.1, .call e.task.fn :: (called.2 ++ rest.2))
      else scheduleLoop now task fuel (i + 1) slots

/-- A program, as it is meant. -/
def scheduleRun : TaskScript → List Slot → List Slot × List ScheduleOut
  | .done, slots => (slots, [])
  | .init tasks clock rest, slots =>
    let installed := scheduleInit slots tasks clock
    let after := scheduleRun rest installed.1
    (after.1, installed.2 ++ after.2)
  | .update now task rest, slots =>
    let updated := scheduleLoop now (fun i => scheduleRun (task i)) tickerMaxTasks 0 slots
    let after := scheduleRun rest updated.1
    (after.1, updated.2 ++ after.2)
  | .printTasks rest, slots =>
    let after := scheduleRun rest slots
    (after.1, scheduleListing slots ++ after.2)

/-! ## The timers of a schedule -/

/-- The timer of a task. -/
def Slot.timer (e : Slot) : SimpleTimer := ⟨e.task.periodMs.toUInt64, e.deadline, true, false⟩

/-- Its entry in the table. -/
def Slot.entry (e : Slot) : TickerEntry := ⟨e.task, e.timer⟩

/-- A period later. -/
theorem deadline_succ (s p : UInt64) (c : Nat) :
    s + UInt64.ofNat (c + 1) * p + p = s + UInt64.ofNat (c + 1 + 1) * p := by
  rw [UInt64.ofNat_add (c + 1) 1]
  grind

/-- **The timer answers just if the task is due**, and is then set a period on. -/
theorem slot_polled (e : Slot) (now : UInt64) :
    simpleTimerHasElapsed e.timer now = (e.due now, (e.poll now).timer) := by
  by_cases h : e.deadline ≤ now
  · have hdue : e.due now = true := decide_eq_true h
    rw [hasElapsed_autoReset rfl rfl h, hdue]
    unfold Slot.poll Slot.timer Slot.deadline
    rw [hdue]
    dsimp only
    rw [if_pos rfl, deadline_succ]
  · have hdue : e.due now = false := decide_eq_false h
    rw [hasElapsed_early (UInt64.not_le.mp h), hdue]
    unfold Slot.poll Slot.timer Slot.deadline
    rw [hdue]
    rfl

/-! ## What is seen -/

/-- An event, as it is seen. -/
inductive TickerSeen : TickerEvent → ScheduleOut → Prop where
  | call (fn : Nat) : TickerSeen (.call fn) (.call fn)
  | uprint {message : UprintCall} {text : List UInt8} :
      Prints message text → TickerSeen (.uprint message) (.text text)

/-- A table that can be printed, of a size that `ticker_init` can be told. -/
def TableOk (table : List TickerTask) : Prop :=
  table.length < 2 ^ 32 ∧ ∀ task ∈ table, task.name ≠ none

/-- Every table that is installed is such a table. -/
def TaskNamed : TaskScript → Prop
  | .done => True
  | .init tasks _ rest => (∀ table, tasks = some table → TableOk table) ∧ TaskNamed rest
  | .update _ task rest => (∀ i, TaskNamed (task i)) ∧ TaskNamed rest
  | .printTasks rest => TaskNamed rest

theorem excess_prints (count : UInt32) :
    Prints ⟨"[TICKER] Warning: %u tasks requested, only %u supported\r\n",
      [.unsigned count, .unsigned (UInt32.ofNat tickerMaxTasks)]⟩ (excessText count.toNat) := by
  have hfmt : MadeOf "[TICKER] Warning: %u tasks requested, only %u supported\r\n"
      (literals "[TICKER] Warning: " ++ .convert .unsigned :: (literals " tasks requested, only "
        ++ .convert .unsigned :: literals " supported\r\n")) := by decide
  refine prints_all hfmt ?_
  rw [rendered_literals, rendered_unsigned, rendered_literals, rendered_unsigned, rendered_end]
  unfold excessText
  simp only [Option.map_some, List.append_assoc]
  rfl

/-- A text with one number in it. -/
theorem number_prints {fmt after : String} (before : String) (hfmt : MadeOf fmt (literals before
    ++ .convert .unsigned :: literals after)) (v : UInt32) : Prints ⟨fmt, [.unsigned v]⟩
      (literalBytes before ++ decimalText v.toNat ++ literalBytes after) := by
  refine prints_all hfmt ?_
  rw [rendered_literals, rendered_unsigned, rendered_end, List.append_assoc]
  rfl

theorem installed_prints (count : UInt32) :
    Prints ⟨"[TICKER] Init OK - %u task(s) registered\r\n", [.unsigned count]⟩
      (installedText count.toNat) :=
  number_prints "[TICKER] Init OK - " (by decide) count

theorem tasks_prints (count : UInt32) :
    Prints ⟨"TICKER - %u task(s)\r\n", [.unsigned count]⟩ (tasksText count.toNat) :=
  number_prints "TICKER - " (by decide) count

theorem task_prints (i : UInt32) {task : TickerTask} (h : task.name ≠ none) :
    Prints ⟨"  [%u] %s  %u ms\r\n", [.unsigned i, .str task.name, .unsigned task.periodMs]⟩
      (taskText i.toNat task) := by
  obtain ⟨name, hname⟩ := Option.ne_none_iff_exists'.mp h
  have hfmt : MadeOf "  [%u] %s  %u ms\r\n" (literals "  [" ++ .convert .unsigned
      :: (literals "] " ++ .convert .string :: (literals "  " ++ .convert .unsigned
        :: literals " ms\r\n"))) := by
    decide
  unfold taskText
  rw [hname]
  refine prints_all hfmt ?_
  rw [rendered_literals, rendered_unsigned, rendered_literals, rendered_string,
    rendered_literals, rendered_unsigned, rendered_end]
  simp only [Option.map_some, Option.getD_some, List.append_assoc]

/-! ## The module and its schedule -/

/-- What is installed has names, and no more than sixteen tasks. -/
structure SlotsOk (slots : List Slot) : Prop where
  size : slots.length ≤ tickerMaxTasks
  named : ∀ e ∈ slots, e.task.name ≠ none

/-- A number of tasks is printed as it is. -/
theorem ofNat_toNat_tasks {k : Nat} (h : k ≤ tickerMaxTasks) : (UInt32.ofNat k).toNat = k := by
  rw [UInt32.toNat_ofNat']
  exact Nat.mod_eq_of_lt (Nat.lt_of_le_of_lt h (by decide))

theorem mem_armedSlots {table : List TickerTask} {clock : Nat → UInt64} {e : Slot}
    (h : e ∈ armedSlots table clock) : e.task ∈ table ∧ e.polls = [] ∧ e.calls = 0 := by
  obtain ⟨i, hi, rfl⟩ := List.mem_mapIdx.mp h
  exact ⟨List.mem_of_mem_take (List.getElem_mem hi), rfl, rfl⟩

theorem armedSlots_length (table : List TickerTask) (clock : Nat → UInt64) :
    (armedSlots table clock).length = min tickerMaxTasks table.length := by
  unfold armedSlots
  rw [List.length_mapIdx, List.length_take]

theorem armedSlots_ok {table : List TickerTask} (h : TableOk table) (clock : Nat → UInt64) :
    SlotsOk (armedSlots table clock) where
  size := by
    rw [armedSlots_length]
    exact Nat.min_le_left _ _
  named := fun _ he => h.2 _ (mem_armedSlots he).1

/-- `ticker_init` arms the slots. -/
theorem armedSlots_entries (table : List TickerTask) (clock : Nat → UInt64) :
    (table.take tickerMaxTasks).mapIdx (fun i task =>
        { desc := task, timer := simpleTimerSetup (clock i) task.periodMs.toUInt64 true })
      = (armedSlots table clock).map Slot.entry := by
  have hentry : ∀ (task : TickerTask) (s : UInt64), (⟨task, s, [], 0⟩ : Slot).entry
      = { desc := task, timer := simpleTimerSetup s task.periodMs.toUInt64 true } := by
    intro task s
    unfold Slot.entry Slot.timer Slot.deadline simpleTimerSetup
    dsimp only
    rw [show UInt64.ofNat (0 + 1) = 1 from rfl, UInt64.one_mul]
  unfold armedSlots
  rw [List.mapIdx_eq_zipIdx_map, List.mapIdx_eq_zipIdx_map, List.map_map]
  exact List.map_congr_left fun e _ => (hentry e.1 (clock e.2)).symm

/-- A table that is installed takes the place of the one before. -/
theorem tickerInit_anew (st : Ticker) {table : List TickerTask} (h : table ≠ [])
    (clock : Nat → UInt64) :
    tickerInit st (some table) clock = tickerInit Ticker.zeroed (some table) clock := by
  have hlen : table.length ≠ 0 := fun h0 => h (List.length_eq_zero_iff.mp h0)
  unfold tickerInit
  dsimp only
  rw [if_neg hlen, if_neg hlen]

/-- What `ticker_init` says of a table. -/
theorem tickerInit_seen {table : List TickerTask} (h : TableOk table) (hne : table ≠ [])
    (clock : Nat → UInt64) :
    List.Forall₂ TickerSeen ((tickerInit Ticker.zeroed (some table) clock).2.map .uprint)
      ((if tickerMaxTasks < table.length then [.text (excessText table.length)] else [])
        ++ [.text (installedText (armedSlots table clock).length)]) := by
  have hlen : table.length ≠ 0 := fun h0 => hne (List.length_eq_zero_iff.mp h0)
  have hcount : (UInt32.ofNat table.length).toNat = table.length := by
    rw [UInt32.toNat_ofNat']
    exact Nat.mod_eq_of_lt h.1
  rw [armedSlots_length]
  unfold tickerInit
  dsimp only
  rw [if_neg hlen]
  by_cases hlong : tickerMaxTasks < table.length
  · rw [if_pos hlong, if_pos hlong, if_pos hlong, Nat.min_eq_left (Nat.le_of_lt hlong)]
    have hexcess := excess_prints (UInt32.ofNat table.length)
    have hinstalled := installed_prints (UInt32.ofNat tickerMaxTasks)
    rw [hcount] at hexcess
    rw [ofNat_toNat_tasks (Nat.le_refl _)] at hinstalled
    exact .cons (.uprint hexcess) (.cons (.uprint hinstalled) .nil)
  · rw [if_neg hlong, if_neg hlong, if_neg hlong, Nat.min_eq_right (Nat.le_of_not_lt hlong)]
    have hinstalled := installed_prints (UInt32.ofNat table.length)
    rw [hcount] at hinstalled
    exact .cons (.uprint hinstalled) .nil

/-- A listing. -/
theorem printTasks_seen {slots : List Slot} (h : SlotsOk slots) :
    List.Forall₂ TickerSeen ((tickerPrintTasks ⟨slots.map Slot.entry⟩).map .uprint)
      (scheduleListing slots) := by
  have htasks := tasks_prints (UInt32.ofNat slots.length)
  rw [ofNat_toNat_tasks h.size] at htasks
  have hlines : List.Forall₂ TickerSeen
      (((slots.map Slot.entry).mapIdx fun i e => (⟨"  [%u] %s  %u ms\r\n",
        [.unsigned (UInt32.ofNat i), .str e.desc.name, .unsigned e.desc.periodMs]⟩ : UprintCall)).map
          .uprint)
      (slots.zipIdx.map fun e => .text (taskText e.2 e.1.task)) := by
    rw [List.mapIdx_eq_zipIdx_map, List.zipIdx_map, List.map_map, List.map_map,
      List.forall₂_map_left_iff, List.forall₂_map_right_iff, List.forall₂_same]
    rintro ⟨e, i⟩ he
    have hslot := List.mk_mem_zipIdx_iff_getElem?.mp he
    obtain ⟨hi, rfl⟩ := List.getElem?_eq_some_iff.mp hslot
    have hline := task_prints (UInt32.ofNat i) (h.named _ (List.getElem_mem hi))
    rw [ofNat_toNat_tasks (Nat.le_trans (Nat.le_of_lt hi) h.size)] at hline
    exact .uprint hline
  unfold tickerPrintTasks scheduleListing
  dsimp only
  rw [List.map_append, List.map_append, List.length_map]
  refine List.rel_append (List.rel_append ?_ hlines) ?_
  · exact .cons (.uprint statusRule_prints) (.cons (.uprint htasks) .nil)
  · exact .cons (.uprint statusRule_prints) .nil

/-! ## How often a task is called -/

/-- The clock at the updates since it was armed. -/
def Slot.pollAt (e : Slot) : Nat → UInt64 := fun k => e.polls.getD k 0

/-- Its timer is one that was armed and polled, and has been counted. -/
structure Paced (e : Slot) : Prop where
  timer : e.timer = taskTimer e.armed e.task.periodMs e.pollAt e.polls.length
  calls : SteadyPolls e.armed e.task.periodMs e.pollAt e.polls.length →
    (0 < e.task.periodMs.toNat →
      e.calls = catchUp (periodsAt e.armed e.task.periodMs e.pollAt) e.polls.length)
    ∧ (e.task.periodMs.toNat = 0 → e.calls = e.polls.length)

section

variable {s : UInt64} {p : UInt32} {poll poll' : Nat → UInt64} {m : Nat}

theorem pollTime_congr (h : ∀ k, k < m → poll k = poll' k) :
    ∀ j, j ≤ m → pollTime s poll j = pollTime s poll' j := by
  intro j hj
  cases j with
  | zero => rfl
  | succ j => exact congrArg UInt64.toNat (h j hj)

/-- One poll less. -/
theorem SteadyPolls.before (h : SteadyPolls s p poll (m + 1)) : SteadyPolls s p poll m where
  mono := fun j hj => h.mono j (Nat.lt_succ_of_lt hj)
  fits := h.fits_at (Nat.le_succ m)

theorem SteadyPolls.congr (h : SteadyPolls s p poll m) (heq : ∀ k, k < m → poll k = poll' k) :
    SteadyPolls s p poll' m where
  mono := by
    intro j hj
    rw [← pollTime_congr heq j (Nat.le_of_lt hj), ← pollTime_congr heq (j + 1) hj]
    exact h.mono j hj
  fits := by
    rw [← pollTime_congr heq m (Nat.le_refl m)]
    exact h.fits

end

theorem paced_armed (task : TickerTask) (s : UInt64) : Paced ⟨task, s, [], 0⟩ where
  timer := by
    unfold Slot.timer Slot.deadline
    dsimp only
    rw [show UInt64.ofNat (0 + 1) = 1 from rfl, UInt64.one_mul]
    rfl
  calls := fun _ => ⟨fun _ => rfl, fun _ => rfl⟩

/-- **A poll keeps pace.** -/
theorem Paced.poll {e : Slot} (h : Paced e) (now : UInt64) : Paced (e.poll now) := by
  have hlen : (e.poll now).polls.length = e.polls.length + 1 := by
    show (e.polls ++ [now]).length = _
    rw [List.length_append, List.length_singleton]
  have hsame : ∀ k, k < e.polls.length → e.pollAt k = (e.poll now).pollAt k := by
    intro k hk
    show e.polls.getD k 0 = (e.polls ++ [now]).getD k 0
    rw [List.getD_append _ _ _ _ hk]
  have hlast : (e.poll now).pollAt e.polls.length = now := by
    show (e.polls ++ [now]).getD e.polls.length 0 = now
    rw [List.getD_append_right _ _ _ _ (Nat.le_refl _), Nat.sub_self]
    rfl
  -- the timer it was polled with
  have hbefore : taskTimer e.armed e.task.periodMs (e.poll now).pollAt e.polls.length
      = e.timer := by
    rw [← taskTimer_congr hsame]
    exact h.timer.symm
  have hfires : taskFires e.armed e.task.periodMs (e.poll now).pollAt e.polls.length
      = e.due now := by
    unfold taskFires
    rw [hbefore, hlast, slot_polled]
  have hcalls : (e.poll now).calls = if e.due now then e.calls + 1 else e.calls := rfl
  constructor
  · rw [hlen]
    show (e.poll now).timer
      = (simpleTimerHasElapsed (taskTimer e.armed e.task.periodMs (e.poll now).pollAt
          e.polls.length) ((e.poll now).pollAt e.polls.length)).2
    rw [hbefore, hlast, slot_polled]
  · rw [hlen]
    intro hsteady
    have hsteady' : SteadyPolls e.armed e.task.periodMs e.pollAt e.polls.length :=
      hsteady.before.congr fun k hk => (hsame k hk).symm
    obtain ⟨hpos, hzero⟩ := h.calls hsteady'
    constructor
    · intro hp
      have hprefix : catchUp (periodsAt e.armed e.task.periodMs e.pollAt) e.polls.length
          = catchUp (periodsAt e.armed e.task.periodMs (e.poll now).pollAt) e.polls.length := by
        refine catchUp_congr fun j hj => ?_
        unfold periodsAt
        rw [pollTime_congr hsame j hj]
      have hdue : taskFires e.armed e.task.periodMs (e.poll now).pollAt e.polls.length = true ↔ _ :=
        taskFires_iff hp hsteady (Nat.lt_succ_self e.polls.length)
      rw [hfires] at hdue
      show (e.poll now).calls = catchUp (periodsAt e.armed e.task.periodMs (e.poll now).pollAt)
        (e.polls.length + 1)
      rw [catchUp, ← hprefix, ← hpos hp, hcalls]
      rw [← hprefix, ← hpos hp] at hdue
      by_cases hd : e.due now = true
      · rw [if_pos hd, if_pos (hdue.mp hd)]
      · rw [if_neg hd, if_neg (fun hlt => hd (hdue.mpr hlt))]
    · intro hp
      have hdue : e.due now = true := by
        rw [← hfires]
        exact taskFires_zero_period hp hsteady (Nat.lt_succ_self _)
      rw [hcalls, if_pos hdue, hzero hp]

/-! ## Programs -/

/-- What holds between any two calls. -/
structure SlotsKept (slots : List Slot) : Prop where
  ok : SlotsOk slots
  paced : ∀ e ∈ slots, Paced e

/-- What the module does, and the schedule does it too. -/
def FollowsSchedule (f : Ticker → Ticker × List TickerEvent)
    (g : List Slot → List Slot × List ScheduleOut) : Prop :=
  ∀ slots, SlotsKept slots → (f ⟨slots.map Slot.entry⟩).1 = ⟨(g slots).1.map Slot.entry⟩
    ∧ List.Forall₂ TickerSeen (f ⟨slots.map Slot.entry⟩).2 (g slots).2 ∧ SlotsKept (g slots).1

/-- A slot is polled. -/
theorem SlotsKept.polled {slots : List Slot} (h : SlotsKept slots) {i : Nat} {e : Slot}
    (he : slots[i]? = some e) (now : UInt64) : SlotsKept (slots.set i (e.poll now)) := by
  have hmem : e ∈ slots := List.mem_of_getElem? he
  refine ⟨⟨?_, fun e' he' => ?_⟩, fun e' he' => ?_⟩
  · rw [List.length_set]
    exact h.ok.size
  · rcases List.mem_or_eq_of_mem_set he' with he' | rfl
    · exact h.ok.named e' he'
    · exact h.ok.named e hmem
  · rcases List.mem_or_eq_of_mem_set he' with he' | rfl
    · exact h.paced e' he'
    · exact (h.paced e hmem).poll now

/-- `ticker_init`. -/
theorem tickerInit_follows {tasks : Option (List TickerTask)}
    (hok : ∀ table, tasks = some table → TableOk table) (clock : Nat → UInt64) :
    FollowsSchedule (fun st => ((tickerInit st tasks clock).1,
        (tickerInit st tasks clock).2.map .uprint))
      (fun slots => scheduleInit slots tasks clock) := by
  intro slots h
  cases tasks with
  | none => exact ⟨rfl, .nil, h⟩
  | some table =>
      unfold scheduleInit
      dsimp only
      by_cases hne : table = []
      · subst hne
        exact ⟨rfl, .nil, h⟩
      · have htable : TableOk table := hok table rfl
        rw [tickerInit_anew _ hne, if_neg hne]
        refine ⟨?_, tickerInit_seen htable hne clock, armedSlots_ok htable clock, fun e he => ?_⟩
        · have hentries := tickerInit_entries table clock
          rw [armedSlots_entries] at hentries
          rw [← hentries]
        · obtain ⟨i, hi, rfl⟩ := List.mem_mapIdx.mp he
          exact paced_armed _ _

/-- **An update**, whose tasks do what is meant. -/
theorem tickerLoop_follows (now : Nat → UInt64) {task : Nat → Ticker → Ticker × List TickerEvent}
    {task' : Nat → List Slot → List Slot × List ScheduleOut}
    (htask : ∀ i, FollowsSchedule (task i) (task' i)) (fuel i : Nat) :
    FollowsSchedule (tickerLoop now task fuel i) (scheduleLoop now task' fuel i) := by
  induction fuel generalizing i with
  | zero => exact fun slots h => ⟨rfl, .nil, h⟩
  | succ fuel ih =>
      intro slots h
      cases hslot : slots[i]? with
      | none =>
          have hentry : (slots.map Slot.entry)[i]? = none := by rw [List.getElem?_map, hslot]; rfl
          unfold tickerLoop scheduleLoop
          dsimp only
          rw [hentry, hslot]
          exact ⟨rfl, .nil, h⟩
      | some e =>
          have hentry : (slots.map Slot.entry)[i]? = some e.entry := by
            rw [List.getElem?_map, hslot]
            rfl
          have hpoll : simpleTimerHasElapsed e.entry.timer (now i)
              = (e.due (now i), (e.poll (now i)).timer) := slot_polled e (now i)
          have hset : (slots.map Slot.entry).set i
                { e.entry with timer := (e.poll (now i)).timer }
              = (slots.set i (e.poll (now i))).map Slot.entry := by
            rw [List.map_set]
            rfl
          have hkept := h.polled hslot (now i)
          unfold tickerLoop scheduleLoop
          dsimp only
          rw [hentry, hslot]
          dsimp only
          rw [hpoll]
          dsimp only
          rw [hset]
          cases e.due (now i) with
          | false => exact ih (i + 1) _ hkept
          | true =>
              obtain ⟨hstate, hseen, hkept'⟩ := htask i _ hkept
              obtain ⟨hend, hrest, hkept''⟩ := ih (i + 1) _ hkept'
              rw [if_pos rfl, if_pos rfl, hstate]
              exact ⟨hend, .cons (.call e.task.fn) (List.rel_append hseen hrest), hkept''⟩

/-- **A program does what is meant**, its tasks included. -/
theorem runTask_follows (script : TaskScript) (hnamed : TaskNamed script) :
    FollowsSchedule (runTask tickerMaxTasks script) (scheduleRun script) := by
  induction script with
  | done => exact fun slots h => ⟨rfl, .nil, h⟩
  | init tasks clock rest ih =>
      intro slots h
      obtain ⟨hstate, hseen, hkept⟩ := tickerInit_follows hnamed.1 clock slots h
      obtain ⟨hend, hrest, hkept'⟩ := ih hnamed.2 _ hkept
      dsimp only at hstate
      unfold runTask scheduleRun
      dsimp only
      rw [hstate]
      exact ⟨hend, List.rel_append hseen hrest, hkept'⟩
  | update now task rest ihtask ih =>
      intro slots h
      obtain ⟨hstate, hseen, hkept⟩ := tickerLoop_follows now
        (fun i => ihtask i (hnamed.1 i)) tickerMaxTasks 0 slots h
      obtain ⟨hend, hrest, hkept'⟩ := ih hnamed.2 _ hkept
      unfold runTask scheduleRun
      dsimp only
      rw [hstate]
      exact ⟨hend, List.rel_append hseen hrest, hkept'⟩
  | printTasks rest ih =>
      intro slots h
      obtain ⟨hend, hrest, hkept⟩ := ih hnamed slots h
      exact ⟨hend, List.rel_append (printTasks_seen h.ok) hrest, hkept⟩

/-! ## The loop of an update -/

/-- The table has room for all entries. -/
def Ticker.Fits (st : Ticker) : Prop := st.entries.length ≤ tickerMaxTasks

section

variable {now : Nat → UInt64} {task task' : Nat → Ticker → Ticker × List TickerEvent}

theorem tickerInit_fits {st : Ticker} (h : Ticker.Fits st) (tasks : Option (List TickerTask))
    (clock : Nat → UInt64) : Ticker.Fits (tickerInit st tasks clock).1 := by
  cases tasks with
  | none => exact h
  | some table =>
      by_cases hne : table = []
      · subst hne
        exact h
      · rw [tickerInit_anew st hne]
        unfold Ticker.Fits
        rw [tickerInit_entries, List.length_mapIdx, List.length_take]
        exact Nat.min_le_left _ _

theorem tickerLoop_fits (now : Nat → UInt64)
    (htask : ∀ i st, Ticker.Fits st → Ticker.Fits (task i st).1) (fuel i : Nat) {st : Ticker}
    (h : Ticker.Fits st) : Ticker.Fits (tickerLoop now task fuel i st).1 := by
  induction fuel generalizing i st with
  | zero => exact h
  | succ fuel ih =>
      unfold tickerLoop
      split
      · exact h
      · have hset : ∀ e, Ticker.Fits ⟨st.entries.set i e⟩ := by
          intro e
          show (st.entries.set i e).length ≤ _
          rw [List.length_set]
          exact h
        dsimp only
        split
        · exact ih (i + 1) (htask i _ (hset _))
        · exact ih (i + 1) (hset _)

/-- It ends at the count, and not for lack of fuel. -/
theorem tickerLoop_enough (htask : ∀ i st, Ticker.Fits st → Ticker.Fits (task i st).1)
    (hsame : ∀ i st, Ticker.Fits st → task i st = task' i st) (fuel fuel' i : Nat) {st : Ticker}
    (h : Ticker.Fits st) (hf : tickerMaxTasks ≤ fuel + i) (hf' : tickerMaxTasks ≤ fuel' + i) :
    tickerLoop now task fuel i st = tickerLoop now task' fuel' i st := by
  have hout : tickerMaxTasks ≤ i → st.entries[i]? = none := fun hi =>
    List.getElem?_eq_none (Nat.le_trans h hi)
  induction fuel generalizing i fuel' st with
  | zero =>
      cases fuel' with
      | zero => rfl
      | succ fuel' =>
          unfold tickerLoop
          rw [hout (by omega)]
  | succ fuel ih =>
      cases fuel' with
      | zero =>
          unfold tickerLoop
          rw [hout (by omega)]
      | succ fuel' =>
          unfold tickerLoop
          split
          · rfl
          · have hset : ∀ e, Ticker.Fits ⟨st.entries.set i e⟩ := by
              intro e
              show (st.entries.set i e).length ≤ _
              rw [List.length_set]
              exact h
            have hnext : ∀ st' : Ticker, Ticker.Fits st' →
                tickerLoop now task fuel (i + 1) st' = tickerLoop now task' fuel' (i + 1) st' :=
              fun st' hst' => ih fuel' (i + 1) hst' (by omega) (by omega) fun hi =>
                List.getElem?_eq_none (Nat.le_trans hst' hi)
            dsimp only
            rw [← hsame i _ (hset _), hnext _ (htask i _ (hset _)), hnext _ (hset _)]

theorem runTask_enough {fuel : Nat} (hf : tickerMaxTasks ≤ fuel) (script : TaskScript)
    {st : Ticker} (h : Ticker.Fits st) :
    runTask fuel script st = runTask tickerMaxTasks script st
      ∧ Ticker.Fits (runTask fuel script st).1 := by
  induction script generalizing st with
  | done => exact ⟨rfl, h⟩
  | init tasks clock rest ih =>
      obtain ⟨hrest, hfits⟩ := ih (tickerInit_fits h tasks clock)
      refine ⟨?_, hfits⟩
      unfold runTask
      dsimp only
      rw [hrest]
  | update now task rest ihtask ih =>
      have hloop : tickerLoop now (fun i => runTask fuel (task i)) fuel 0 st
          = tickerLoop now (fun i => runTask tickerMaxTasks (task i)) tickerMaxTasks 0 st :=
        tickerLoop_enough (fun i _ hst => (ihtask i hst).2) (fun i _ hst => (ihtask i hst).1)
          fuel tickerMaxTasks 0 h hf (Nat.le_refl _)
      have hkeeps := tickerLoop_fits now (fun i _ hst => (ihtask i hst).2) fuel 0 h
      obtain ⟨hrest, hfits⟩ := ih hkeeps
      refine ⟨?_, hfits⟩
      unfold runTask
      dsimp only
      rw [hrest, hloop]
  | printTasks rest ih =>
      obtain ⟨hrest, hfits⟩ := ih h
      refine ⟨?_, hfits⟩
      unfold runTask
      dsimp only
      rw [hrest]

end

/-- **An update whose tasks leave the module alone** is `tickerUpdate`. -/
theorem tickerLoop_quiet (now : Nat → UInt64) (es pre : List TickerEntry) (fuel : Nat)
    (hf : es.length ≤ fuel) :
    tickerLoop now (fun _ st => (st, [])) fuel pre.length ⟨pre ++ es⟩
      = (⟨pre ++ (tickerUpdateFrom now pre.length es).1⟩,
        (tickerUpdateFrom now pre.length es).2.filterMap fun k =>
          ((pre ++ es).map TickerEntry.desc)[k]?.map fun desc => .call desc.fn) := by
  induction es generalizing pre fuel with
  | nil =>
      cases fuel with
      | zero => rfl
      | succ fuel =>
          unfold tickerLoop
          have hnone : (pre ++ ([] : List TickerEntry))[pre.length]? = none :=
            List.getElem?_eq_none (by simp)
          dsimp only
          rw [hnone]
          rfl
  | cons e es ih =>
      cases fuel with
      | zero => simp at hf
      | succ fuel =>
          have hat : (pre ++ e :: es)[pre.length]? = some e := by simp
          have hset : ∀ e', (pre ++ e :: es).set pre.length e' = (pre ++ [e']) ++ es := by
            intro e'
            simp
          have hdesc : ((pre ++ e :: es).map TickerEntry.desc)[pre.length]? = some e.desc := by
            rw [List.getElem?_map, hat]
            rfl
          let e' : TickerEntry := { e with timer := (simpleTimerHasElapsed e.timer (now pre.length)).2 }
          have hrest := ih (pre ++ [e']) fuel (Nat.le_of_succ_le_succ hf)
          have hsame : ((pre ++ [e']) ++ es).map TickerEntry.desc
              = (pre ++ e :: es).map TickerEntry.desc := by
            simp [e']
          rw [hsame, List.length_append, List.length_singleton] at hrest
          unfold tickerLoop tickerUpdateFrom
          dsimp only
          rw [hat]
          dsimp only
          rw [hset, hrest, List.append_assoc, List.singleton_append]
          cases (simpleTimerHasElapsed e.timer (now pre.length)).1 with
          | false => rfl
          | true =>
              rw [if_pos rfl, if_pos rfl, List.filterMap_cons, hdesc]
              rfl

/--
**The ticker keeps a schedule, whatever its tasks do with it.**

For every program of `ticker_init`, `ticker_update` and `ticker_print_tasks`, with any tables
whose tasks have names, whose tasks may themselves install tables, print them and call for
updates, to any depth, and whatever the clock reads, its wraps included: every update ends; the
tasks that are called, in their order, and the texts that are printed, byte for byte, are those
of a schedule without timers, in which a table that is installed takes the place of the one
before, at once, and a task that has been called `c` times since is due at its arming plus
`c + 1` periods. Of a task whose clock has not gone back since, that count is the least, over
the instants, of the periods elapsed at the instant plus the polls made since, or with period
zero the polls.
-/
theorem ticker_keeps_schedule (fuel : Nat) (hf : tickerMaxTasks ≤ fuel) (script : TaskScript)
    (hnamed : TaskNamed script) :
    let module := runTask fuel script Ticker.zeroed
    let schedule := scheduleRun script []
    module.1 = ⟨schedule.1.map Slot.entry⟩
      ∧ List.Forall₂ TickerSeen module.2 schedule.2
      ∧ ∀ e ∈ schedule.1, SteadyPolls e.armed e.task.periodMs e.pollAt e.polls.length →
        (0 < e.task.periodMs.toNat →
          IsLeast {x | ∃ j, j ≤ e.polls.length ∧
            x = (pollTime e.armed e.pollAt j - e.armed.toNat) / e.task.periodMs.toNat
              + (e.polls.length - j)} e.calls)
        ∧ (e.task.periodMs.toNat = 0 → e.calls = e.polls.length) := by
  intro module schedule
  have hkept : SlotsKept [] := ⟨⟨Nat.zero_le _, fun _ he => absurd he List.not_mem_nil⟩,
    fun _ he => absurd he List.not_mem_nil⟩
  have henough : module = runTask tickerMaxTasks script ⟨[].map Slot.entry⟩ :=
    (runTask_enough hf script (Nat.zero_le _)).1
  obtain ⟨hend, hseen, hkept⟩ := runTask_follows script hnamed [] hkept
  rw [henough]
  refine ⟨hend, hseen, fun e he hsteady => ?_⟩
  obtain ⟨hpos, hzero⟩ := (hkept.paced e he).calls hsteady
  refine ⟨fun hp => ?_, hzero⟩
  rw [hpos hp]
  refine catchUp_isLeast ?_ hsteady.periods_mono
  show (e.armed.toNat - e.armed.toNat) / _ = 0
  rw [Nat.sub_self, Nat.zero_div]

/-- What the task of the first table does at its second call: it installs a table of two. -/
def switchTables : Nat → TaskScript
  | 0 => .init (some [⟨2, 5, some [ascii 'b']⟩, ⟨3, 0, some [ascii 'c']⟩]) (fun _ => 30) .done
  | _ => .done

/-- A task every ten ticks, that prints itself at its first call. -/
def modeSwitch : TaskScript :=
  .init (some [⟨1, 10, some [ascii 'a']⟩]) (fun _ => 0) <|
  .update (fun _ => 25) (fun _ => .printTasks .done) <|
  .update (fun i => if i = 0 then 26 else 31) switchTables <|
  .update (fun _ => 34) (fun _ => .done) .done

/-- The task with period zero is called in the very update in which its table is installed. -/
theorem ticker_keeps_schedule_switch :
    List.Forall₂ TickerSeen (runTask 16 modeSwitch Ticker.zeroed).2 (scheduleRun modeSwitch []).2
      ∧ (scheduleRun modeSwitch []).1.map Slot.calls = [0, 2] := by
  have hnamed : TaskNamed modeSwitch := by
    have hswitch : ∀ i, TaskNamed (switchTables i) := by
      intro i
      cases i with
      | zero => simp [switchTables, TaskNamed, TableOk]
      | succ i => trivial
    simp [modeSwitch, TaskNamed, TableOk, hswitch]
  exact ⟨(ticker_keeps_schedule 16 (Nat.le_refl 16) modeSwitch hnamed).2.1, by decide⟩

end FwCore.Proof
