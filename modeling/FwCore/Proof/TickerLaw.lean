import FwCore.Core.Ticker
import FwCore.Lib.CatchUp

/-!
# How often a task is called

The loop of `ticker_update` looks like one computation over a shared table, but
every iteration touches its own timer only. So a run of the ticker is a family of
independent runs, one for each entry, of a machine whose whole state is a timer
(`taskTimer`); `tickerAfter_entry` and `mem_tickerCalls` say so.

What is left is arithmetic about one auto-reset timer. Its deadline is always the
arming time plus a whole number of periods, one more than the calls made so far.
A poll therefore calls the task exactly when that number is behind the count of
periods elapsed, and moves it by one: `Lib.catchUp`, whose closed form is the law.
-/

namespace FwCore.Proof

open FwCore

/-! ## One update, entry by entry -/

/-- The loop keeps the table's shape and polls each timer with its own reading. -/
theorem updateFrom_entries (clock : Nat → UInt64) :
    ∀ (i : Nat) (es : List TickerEntry) (j : Nat),
      (tickerUpdateFrom clock i es).1[j]?
        = es[j]?.map fun e => { e with timer := (simpleTimerHasElapsed e.timer (clock (i + j))).2 }
  | _, [], j => by simp [tickerUpdateFrom]
  | i, e :: es, 0 => by simp [tickerUpdateFrom]
  | i, e :: es, j + 1 => by
      have ih := updateFrom_entries clock (i + 1) es j
      rw [show i + 1 + j = i + (j + 1) by omega] at ih
      simp only [tickerUpdateFrom, List.getElem?_cons_succ]
      exact ih

/-- Calls made from entry `i` on are of entries at or after `i`. -/
theorem updateFrom_calls_ge (clock : Nat → UInt64) :
    ∀ (i : Nat) (es : List TickerEntry), ∀ c ∈ (tickerUpdateFrom clock i es).2, i ≤ c
  | _, [] => by simp [tickerUpdateFrom]
  | i, e :: es => by
      intro c hc
      have ih := updateFrom_calls_ge clock (i + 1) es
      simp only [tickerUpdateFrom] at hc
      split at hc
      · rcases List.mem_cons.mp hc with h | h
        · omega
        · have := ih c h; omega
      · have := ih c hc; omega

/-- Calls come in table order, and none comes twice. -/
theorem updateFrom_calls_sorted (clock : Nat → UInt64) :
    ∀ (i : Nat) (es : List TickerEntry), (tickerUpdateFrom clock i es).2.Pairwise (· < ·)
  | _, [] => by simp [tickerUpdateFrom]
  | i, e :: es => by
      have ih := updateFrom_calls_sorted clock (i + 1) es
      simp only [tickerUpdateFrom]
      split
      · refine List.pairwise_cons.mpr ⟨fun c hc => ?_, ih⟩
        have := updateFrom_calls_ge clock (i + 1) es c hc
        omega
      · exact ih

/-- An entry is called exactly when its own timer answers. -/
theorem mem_updateFrom_calls (clock : Nat → UInt64) :
    ∀ (i : Nat) (es : List TickerEntry) (j : Nat),
      i + j ∈ (tickerUpdateFrom clock i es).2
        ↔ ∃ e, es[j]? = some e ∧ (simpleTimerHasElapsed e.timer (clock (i + j))).1 = true
  | _, [], j => by simp [tickerUpdateFrom]
  | i, e :: es, 0 => by
      -- later entries are called under later numbers
      have hge := updateFrom_calls_ge clock (i + 1) es
      have hnot : i ∉ (tickerUpdateFrom clock (i + 1) es).2 := by
        intro hi
        have := hge i hi
        omega
      simp only [tickerUpdateFrom, Nat.add_zero, List.getElem?_cons_zero, Option.some.injEq,
        exists_eq_left']
      split
      · rename_i h; simp [h]
      · rename_i h; simp [h, hnot]
  | i, e :: es, j + 1 => by
      have ih := mem_updateFrom_calls clock (i + 1) es j
      rw [show i + 1 + j = i + (j + 1) by omega] at ih
      simp only [tickerUpdateFrom, List.getElem?_cons_succ]
      rw [← ih]
      split
      · simp [List.mem_cons]
      · exact Iff.rfl

/-! ## A run is a family of independent timers -/

/-- The timer of a task armed at `s` with period `p`, after `m` polls. -/
def taskTimer (s : UInt64) (p : UInt32) (poll : Nat → UInt64) : Nat → SimpleTimer
  | 0 => simpleTimerSetup s p.toUInt64 true
  | m + 1 => (simpleTimerHasElapsed (taskTimer s p poll m) (poll m)).2

/-- Whether poll `k` calls the task. -/
def taskFires (s : UInt64) (p : UInt32) (poll : Nat → UInt64) (k : Nat) : Bool :=
  (simpleTimerHasElapsed (taskTimer s p poll k) (poll k)).1

/-- The entries `ticker_init` builds: the first sixteen tasks, each armed at its own reading. -/
theorem tickerInit_entries (tasks : List TickerTask) (clock : Nat → UInt64) :
    (tickerInit Ticker.zeroed (some tasks) clock).1.entries
      = (tasks.take tickerMaxTasks).mapIdx fun i task =>
          { desc := task, timer := simpleTimerSetup (clock i) task.periodMs.toUInt64 true } := by
  unfold tickerInit
  dsimp only
  by_cases h0 : tasks.length = 0
  · rw [if_pos h0, List.length_eq_zero_iff.mp h0]; rfl
  · rw [if_neg h0]
    split
    · rfl
    · rename_i h
      rw [List.take_length, List.take_of_length_le (by omega)]

theorem tickerInit_entry {tasks : List TickerTask} (clock : Nat → UInt64) {i : Nat}
    {task : TickerTask} (h : (tasks.take tickerMaxTasks)[i]? = some task) :
    (tickerInit Ticker.zeroed (some tasks) clock).1.entries[i]?
      = some { desc := task, timer := simpleTimerSetup (clock i) task.periodMs.toUInt64 true } := by
  rw [tickerInit_entries, List.getElem?_mapIdx, h]; rfl

/-- **An entry's timer depends on that entry's own readings only.** -/
theorem tickerAfter_entry {st : Ticker} {clock : Nat → Nat → UInt64} {i : Nat} {task : TickerTask}
    {s : UInt64}
    (h : st.entries[i]?
      = some { desc := task, timer := simpleTimerSetup s task.periodMs.toUInt64 true }) :
    ∀ m, (tickerAfter st clock m).entries[i]?
      = some { desc := task, timer := taskTimer s task.periodMs (fun k => clock k i) m } := by
  intro m
  induction m with
  | zero => exact h
  | succ m ih =>
      have hstep := updateFrom_entries (clock m) 0 (tickerAfter st clock m).entries i
      rw [ih, Nat.zero_add] at hstep
      exact hstep

theorem mem_tickerCalls {st : Ticker} {clock : Nat → Nat → UInt64} {i : Nat} {task : TickerTask}
    {s : UInt64}
    (h : st.entries[i]?
      = some { desc := task, timer := simpleTimerSetup s task.periodMs.toUInt64 true }) (k : Nat) :
    i ∈ tickerCalls st clock k ↔ taskFires s task.periodMs (fun k => clock k i) k = true := by
  have hmem := mem_updateFrom_calls (clock k) 0 (tickerAfter st clock k).entries i
  rw [tickerAfter_entry h k, Nat.zero_add] at hmem
  rw [tickerCalls, tickerUpdate, hmem]
  simp [taskFires]

theorem tickerCalls_sorted (st : Ticker) (clock : Nat → Nat → UInt64) (k : Nat) :
    (tickerCalls st clock k).Pairwise (· < ·) := updateFrom_calls_sorted _ _ _

/-- An update calls an entry once or not at all. -/
theorem count_tickerCalls {st : Ticker} {clock : Nat → Nat → UInt64} {i : Nat} {task : TickerTask}
    {s : UInt64}
    (h : st.entries[i]?
      = some { desc := task, timer := simpleTimerSetup s task.periodMs.toUInt64 true }) (k : Nat) :
    (tickerCalls st clock k).count i
      = if taskFires s task.periodMs (fun k => clock k i) k = true then 1 else 0 := by
  have hnd : (tickerCalls st clock k).Nodup :=
    (tickerCalls_sorted st clock k).imp (fun hlt => Nat.ne_of_lt hlt)
  rw [hnd.count]
  simp only [mem_tickerCalls h k]

/-! ## One timer against the count of elapsed periods -/

/-- The instants of the law: the arming time, then the polls. -/
def pollTime (s : UInt64) (poll : Nat → UInt64) : Nat → Nat
  | 0 => s.toNat
  | j + 1 => (poll j).toNat

/-- Whole periods elapsed at instant `j`. -/
def periodsAt (s : UInt64) (p : UInt32) (poll : Nat → UInt64) (j : Nat) : Nat :=
  (pollTime s poll j - s.toNat) / p.toNat

/-- The first `m` polls: the clock never goes back, and never comes within a period of wrapping. -/
structure SteadyPolls (s : UInt64) (p : UInt32) (poll : Nat → UInt64) (m : Nat) : Prop where
  /-- Readings, the arming one included, do not decrease. -/
  mono : ∀ j, j < m → pollTime s poll j ≤ pollTime s poll (j + 1)
  /-- A period can be added to the last reading. -/
  fits : pollTime s poll m + p.toNat < 2 ^ 64

theorem SteadyPolls.le_of_le {s : UInt64} {p : UInt32} {poll : Nat → UInt64} {m : Nat}
    (h : SteadyPolls s p poll m) {j : Nat} :
    ∀ k, j ≤ k → k ≤ m → pollTime s poll j ≤ pollTime s poll k := by
  intro k
  induction k with
  | zero => intro hj _; rw [Nat.le_zero.mp hj]
  | succ k ih =>
      intro hj hk
      rcases Nat.lt_or_ge k j with hlt | hge
      · rw [show j = k + 1 by omega]
      · exact Nat.le_trans (ih hge (by omega)) (h.mono k (by omega))

theorem SteadyPolls.start_le {s : UInt64} {p : UInt32} {poll : Nat → UInt64} {m j : Nat}
    (h : SteadyPolls s p poll m) (hj : j ≤ m) : s.toNat ≤ pollTime s poll j :=
  h.le_of_le j (Nat.zero_le j) hj

theorem SteadyPolls.fits_at {s : UInt64} {p : UInt32} {poll : Nat → UInt64} {m j : Nat}
    (h : SteadyPolls s p poll m) (hj : j ≤ m) : pollTime s poll j + p.toNat < 2 ^ 64 :=
  Nat.lt_of_le_of_lt (Nat.add_le_add_right (h.le_of_le m hj (Nat.le_refl m)) _) h.fits

/-- The periods elapsed start at zero and do not go down. -/
theorem SteadyPolls.periods_mono {s : UInt64} {p : UInt32} {poll : Nat → UInt64} {m : Nat}
    (h : SteadyPolls s p poll m) : ∀ j, j < m → periodsAt s p poll j ≤ periodsAt s p poll (j + 1) :=
  fun j hj => Nat.div_le_div_right (Nat.sub_le_sub_right (h.mono j hj) _)

/-- The timer of a task that has been called `c` times: due one period after `s + c * p`. -/
structure CalledTimes (s : UInt64) (p : UInt32) (t : SimpleTimer) (c : Nat) : Prop where
  /-- It reloads. -/
  reloads : t.autoReset = true
  /-- It never latches. -/
  fresh : t.hasElapsed = false
  /-- It reloads by one period. -/
  wait : t.waitTime = p.toUInt64
  /-- It is due for its next call. -/
  due : t.targetTime.toNat = s.toNat + (c + 1) * p.toNat

theorem calledTimes_setup {s : UInt64} {p : UInt32} (h : s.toNat + p.toNat < 2 ^ 64) :
    CalledTimes s p (simpleTimerSetup s p.toUInt64 true) 0 where
  reloads := rfl
  fresh := rfl
  wait := rfl
  due := by
    show (s + p.toUInt64).toNat = _
    rw [UInt64.toNat_add, UInt32.toNat_toUInt64, Nat.mod_eq_of_lt h]
    omega

/-- A poll before the deadline makes no call. -/
theorem CalledTimes.poll_early {s : UInt64} {p : UInt32} {t : SimpleTimer} {c : Nat} {now : UInt64}
    (h : CalledTimes s p t c) (hn : now.toNat < s.toNat + (c + 1) * p.toNat) :
    simpleTimerHasElapsed t now = (false, t) :=
  hasElapsed_early (UInt64.lt_iff_toNat_lt.mpr (by rw [h.due]; exact hn))

/-- A poll at or past it makes one call, and the next is due a period later. -/
theorem CalledTimes.poll_due {s : UInt64} {p : UInt32} {t : SimpleTimer} {c : Nat} {now : UInt64}
    (h : CalledTimes s p t c) (hn : s.toNat + (c + 1) * p.toNat ≤ now.toNat)
    (hfit : now.toNat + p.toNat < 2 ^ 64) :
    (simpleTimerHasElapsed t now).1 = true
      ∧ CalledTimes s p (simpleTimerHasElapsed t now).2 (c + 1) := by
  have hle : t.targetTime ≤ now := UInt64.le_iff_toNat_le.mpr (by rw [h.due]; exact hn)
  rw [hasElapsed_autoReset h.fresh h.reloads hle]
  refine ⟨rfl, h.reloads, h.fresh, h.wait, ?_⟩
  show (t.targetTime + t.waitTime).toNat = _
  have hnext : s.toNat + (c + 1 + 1) * p.toNat = s.toNat + (c + 1) * p.toNat + p.toNat := by
    rw [Nat.succ_mul (c + 1), Nat.add_assoc]
  rw [UInt64.toNat_add, h.due, h.wait, UInt32.toNat_toUInt64, hnext, Nat.mod_eq_of_lt (by omega)]

/-- Being behind the elapsed periods is being past the deadline. -/
theorem lt_periods_iff {s p c t : Nat} (hp : 0 < p) (hs : s ≤ t) :
    c < (t - s) / p ↔ s + (c + 1) * p ≤ t := by
  rw [← Nat.succ_le_iff, Nat.le_div_iff_mul_le hp, Nat.succ_eq_add_one]
  omega

/-- **The counter behind the deadline is `catchUp` of the elapsed periods.** -/
theorem taskTimer_calledTimes {s : UInt64} {p : UInt32} {poll : Nat → UInt64} {n : Nat}
    (hp : 0 < p.toNat) (h : SteadyPolls s p poll n) :
    ∀ m, m ≤ n → CalledTimes s p (taskTimer s p poll m) (Lib.catchUp (periodsAt s p poll) m) := by
  intro m
  induction m with
  | zero => intro _; exact calledTimes_setup (h.fits_at (Nat.zero_le _))
  | succ m ih =>
      intro hm
      have hc := ih (by omega)
      have hs := h.start_le hm
      rw [taskTimer, Lib.catchUp]
      by_cases hb : Lib.catchUp (periodsAt s p poll) m < periodsAt s p poll (m + 1)
      · -- behind: this poll is past the deadline
        rw [if_pos hb]
        exact (hc.poll_due ((lt_periods_iff hp hs).mp hb) (h.fits_at hm)).2
      · -- level: the deadline is still ahead
        have hn := fun hd => hb ((lt_periods_iff hp hs).mpr hd)
        rw [if_neg hb, hc.poll_early (Nat.not_le.mp hn)]
        exact hc

/-- A poll calls the task exactly when the calls are behind the elapsed periods. -/
theorem taskFires_iff {s : UInt64} {p : UInt32} {poll : Nat → UInt64} {n k : Nat}
    (hp : 0 < p.toNat) (h : SteadyPolls s p poll n) (hk : k < n) :
    taskFires s p poll k = true
      ↔ Lib.catchUp (periodsAt s p poll) k < periodsAt s p poll (k + 1) := by
  have hc := taskTimer_calledTimes hp h k (Nat.le_of_lt hk)
  have hs := h.start_le hk
  rw [periodsAt, lt_periods_iff hp hs]
  constructor
  · intro hf
    by_contra hn
    rw [taskFires, hc.poll_early (Nat.not_le.mp hn)] at hf
    exact absurd hf (by simp)
  · intro hd
    exact (hc.poll_due hd (h.fits_at hk)).1

/-- The calls made to an entry, counted, are `catchUp` of its elapsed periods. -/
theorem tickerCallCount_eq {st : Ticker} {clock : Nat → Nat → UInt64} {i : Nat} {task : TickerTask}
    {s : UInt64} {n : Nat}
    (h : st.entries[i]?
      = some { desc := task, timer := simpleTimerSetup s task.periodMs.toUInt64 true })
    (hp : 0 < task.periodMs.toNat) (hok : SteadyPolls s task.periodMs (fun k => clock k i) n) :
    ∀ m, m ≤ n → tickerCallCount st clock i m
      = Lib.catchUp (periodsAt s task.periodMs (fun k => clock k i)) m := by
  intro m
  induction m with
  | zero => intro _; rfl
  | succ m ih =>
      intro hm
      have ihm := ih (by omega)
      have hfires := taskFires_iff hp hok (k := m) (by omega)
      rw [tickerCallCount] at ihm
      rw [tickerCallCount, List.range_succ, List.flatMap_append, List.count_append, ihm,
        List.flatMap_singleton, count_tickerCalls h, Lib.catchUp]
      by_cases hb : Lib.catchUp (periodsAt s task.periodMs fun k => clock k i) m
          < periodsAt s task.periodMs (fun k => clock k i) (m + 1)
      · rw [if_pos hb, if_pos (hfires.mpr hb)]
      · rw [if_neg hb, if_neg (fun hf => hb (hfires.mp hf))]; rfl

/-! ## A task with period zero -/

/-- With period zero the deadline never moves off the arming time. -/
theorem taskTimer_zero_period {s : UInt64} {p : UInt32} {poll : Nat → UInt64} {n : Nat}
    (hp : p.toNat = 0) (h : SteadyPolls s p poll n) :
    ∀ m, m ≤ n → ∃ c, CalledTimes s p (taskTimer s p poll m) c := by
  intro m
  induction m with
  | zero => intro _; exact ⟨0, calledTimes_setup (h.fits_at (Nat.zero_le _))⟩
  | succ m ih =>
      intro hm
      obtain ⟨c, hc⟩ := ih (by omega)
      have hs := h.start_le hm
      -- the deadline is the arming time, which every poll has reached
      exact ⟨c + 1, (hc.poll_due (by rw [hp]; exact hs) (h.fits_at hm)).2⟩

theorem taskFires_zero_period {s : UInt64} {p : UInt32} {poll : Nat → UInt64} {n k : Nat}
    (hp : p.toNat = 0) (h : SteadyPolls s p poll n) (hk : k < n) :
    taskFires s p poll k = true := by
  obtain ⟨c, hc⟩ := taskTimer_zero_period hp h k (Nat.le_of_lt hk)
  have hs := h.start_le hk
  exact (hc.poll_due (by rw [hp]; exact hs) (h.fits_at hk)).1

/-! ## The law -/

theorem tickerAfter_length (st : Ticker) (clock : Nat → Nat → UInt64) (m i : Nat) :
    (tickerAfter st clock m).entries[i]? = none ↔ st.entries[i]? = none := by
  induction m with
  | zero => exact Iff.rfl
  | succ m ih =>
      have hstep := updateFrom_entries (clock m) 0 (tickerAfter st clock m).entries i
      rw [tickerAfter, tickerUpdate, hstep, Option.map_eq_none_iff, ih]

/-- Calls in an update are of entries of the table. -/
theorem mem_tickerCalls_lt {st : Ticker} {clock : Nat → Nat → UInt64} {k i : Nat}
    (h : i ∈ tickerCalls st clock k) : i < st.entries.length := by
  have hmem := mem_updateFrom_calls (clock k) 0 (tickerAfter st clock k).entries i
  rw [Nat.zero_add] at hmem
  obtain ⟨e, he, _⟩ := hmem.mp h
  have hsome : st.entries[i]? ≠ none := by
    intro hnone
    rw [(tickerAfter_length st clock k i).mpr hnone] at he
    exact absurd he (by simp)
  exact Nat.lt_of_not_le (fun hge => hsome (List.getElem?_eq_none hge))

theorem taskTimer_congr {s : UInt64} {p : UInt32} {poll poll' : Nat → UInt64} {m : Nat}
    (h : ∀ k, k < m → poll k = poll' k) : taskTimer s p poll m = taskTimer s p poll' m := by
  induction m with
  | zero => rfl
  | succ m ih =>
      rw [taskTimer, taskTimer, ih (fun k hk => h k (by omega)), h m (Nat.lt_succ_self m)]

/-- Which polls call a task is a function of its arming time, its period and its polls. -/
theorem taskFires_congr {s : UInt64} {p : UInt32} {poll poll' : Nat → UInt64} {k : Nat}
    (h : ∀ j, j ≤ k → poll j = poll' j) : taskFires s p poll k = taskFires s p poll' k := by
  rw [taskFires, taskFires, taskTimer_congr (fun j hj => h j (Nat.le_of_lt hj)),
    h k (Nat.le_refl k)]

/--
**The call-count law.**

After one `ticker_init`, a task with a period is called, over its first `m`
polls, exactly the least over the instants `j` of the periods elapsed at `j` plus
the polls made since: nothing drifts, nothing is lost, and a backlog is worked
off at one call per update. A task with period zero is called in every update.
Calls in an update come in table order, each task at most once; and which updates
call a task is decided by its arming time, its period and its own poll times,
whatever table it sits in.
-/
theorem ticker_callLaw (tasks : List TickerTask) (initClock : Nat → UInt64)
    (clock : Nat → Nat → UInt64) :
    let tk := (tickerInit Ticker.zeroed (some tasks) initClock).1
    (∀ (i : Nat) (task : TickerTask) (m : Nat), (tasks.take tickerMaxTasks)[i]? = some task →
      SteadyPolls (initClock i) task.periodMs (fun k => clock k i) m →
      (0 < task.periodMs.toNat →
        IsLeast {x | ∃ j, j ≤ m ∧
            x = (pollTime (initClock i) (fun k => clock k i) j - (initClock i).toNat)
                  / task.periodMs.toNat + (m - j)}
          (tickerCallCount tk clock i m))
      ∧ (task.periodMs.toNat = 0 → ∀ k, k < m → (tickerCalls tk clock k).count i = 1))
    ∧ (∀ k, (tickerCalls tk clock k).Pairwise (· < ·)
      ∧ ∀ i ∈ tickerCalls tk clock k, i < min tickerMaxTasks tasks.length)
    ∧ (∀ (tasks' : List TickerTask) (initClock' : Nat → UInt64) (clock' : Nat → Nat → UInt64)
        (i i' k : Nat) (task task' : TickerTask),
      (tasks.take tickerMaxTasks)[i]? = some task →
      (tasks'.take tickerMaxTasks)[i']? = some task' →
      task.periodMs = task'.periodMs → initClock i = initClock' i' →
      (∀ j, j ≤ k → clock j i = clock' j i') →
      (i ∈ tickerCalls tk clock k
        ↔ i' ∈ tickerCalls (tickerInit Ticker.zeroed (some tasks') initClock').1 clock' k)) := by
  intro tk
  refine ⟨?_, ?_, ?_⟩
  · intro i task m hi hok
    have he := tickerInit_entry initClock hi
    refine ⟨fun hp => ?_, fun hp k hk => ?_⟩
    · -- with a period: the closed form of `catchUp`
      rw [tickerCallCount_eq he hp hok m (Nat.le_refl m)]
      have h0 : periodsAt (initClock i) task.periodMs (fun k => clock k i) 0 = 0 := by
        rw [periodsAt, pollTime, Nat.sub_self, Nat.zero_div]
      exact Lib.catchUp_isLeast h0 hok.periods_mono
    · -- with period zero: every poll is due
      rw [count_tickerCalls he, if_pos (taskFires_zero_period hp hok hk)]
  · intro k
    refine ⟨tickerCalls_sorted tk clock k, fun i hi => ?_⟩
    have hlt := mem_tickerCalls_lt hi
    rw [tickerInit_entries, List.length_mapIdx, List.length_take] at hlt
    exact hlt
  · intro tasks' initClock' clock' i i' k task task' hi hi' hp hs hpoll
    rw [mem_tickerCalls (tickerInit_entry initClock hi),
      mem_tickerCalls (tickerInit_entry initClock' hi'), hp, hs, taskFires_congr hpoll]

/-- A stalled loop: period 10, armed at 100, polled at 105, 131, 132 and 133. -/
theorem ticker_callLaw_stall :
    let tk := (tickerInit Ticker.zeroed (some [⟨0, 10, none⟩, ⟨1, 0, none⟩]) fun _ => 100).1
    let clock := fun k (_ : Nat) => [105, 131, 132, 133].getD k 133
    IsLeast {x | ∃ j, j ≤ 4 ∧ x = (pollTime 100 (fun k => clock k 0) j - 100) / 10 + (4 - j)}
        (tickerCallCount tk clock 0 4)
      ∧ tickerCallCount tk clock 0 4 = 3
      ∧ (tickerCalls tk clock 1).count 1 = 1
      ∧ (0 ∈ tickerCalls tk clock 1
        ↔ 1 ∈ tickerCalls
            (tickerInit Ticker.zeroed (some [⟨1, 0, none⟩, ⟨0, 10, none⟩]) fun _ => 100).1
            clock 1) := by
  intro tk clock
  have law := ticker_callLaw [⟨0, 10, none⟩, ⟨1, 0, none⟩] (fun _ => 100) clock
  have hok : ∀ p : UInt32, p.toNat ≤ 10 → SteadyPolls 100 p (fun k => clock k 0) 4 := by
    intro p hp
    refine ⟨by decide, ?_⟩
    show 133 + p.toNat < 2 ^ 64
    omega
  refine ⟨(law.1 0 ⟨0, 10, none⟩ 4 rfl (hok 10 (by decide))).1 (by decide), by decide, ?_, ?_⟩
  · exact (law.1 1 ⟨1, 0, none⟩ 4 rfl (hok 0 (by decide))).2 (by decide) 1 (by decide)
  · exact law.2.2 [⟨1, 0, none⟩, ⟨0, 10, none⟩] (fun _ => 100) clock 0 1 1 ⟨0, 10, none⟩
      ⟨0, 10, none⟩ rfl rfl rfl rfl (fun _ _ => rfl)

end FwCore.Proof
