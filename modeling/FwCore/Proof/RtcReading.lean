import FwCore.Proof.RtcRoundTrip

/-!
# What the clock reads while it runs

Behind the port is taken to be a chip that `RunsClock`. The driver reads a register at a
time, and the clock may tick in between. What it returns is put together: the seconds of the
first transaction, the minutes of the second, and so on. `timeTogether` and `valueTogether`
are the clock that shows just that, which the clock of the chip need not do at any instant.

Which clock a value belongs to is never in doubt (`value_inj`), so the question whether a
value was shown by the chip at one instant is whether the chip's clock was the one put
together. In less than a minute the seconds tell its instants apart, and it can only have
been so at the first transaction.
-/

namespace FwCore.Proof

open FwCore

/--
Behind the port is a chip whose clock runs. How often it ticks before each of the transactions
to come is up to the chip; during one it stands still.
-/
structure RunsClock {σ : Type} (comm : Comm σ) (rtcCommId : UInt8) (clock : σ → ChipClock)
    (ticks : σ → Nat → Nat) : Prop where
  /-- A message of two bytes, one of the chip's address, and a byte back, read a register. -/
  read : ∀ s addr, addr ≤ ds3231AddrYear →
    (comm.receive rtcCommId (comm.send rtcCommId [0x68] (comm.send rtcCommId [0x68, addr] s))).1
      = (ChipClock.tick^[ticks s 0] (clock s)).register addr
  /-- The clock has ticked meanwhile. -/
  runs : ∀ s addr, clock (comm.receive rtcCommId (comm.send rtcCommId [0x68]
    (comm.send rtcCommId [0x68, addr] s))).2 = ChipClock.tick^[ticks s 0] (clock s)
  /-- The transactions to come are one less. -/
  next : ∀ s addr, ticks (comm.receive rtcCommId (comm.send rtcCommId [0x68]
    (comm.send rtcCommId [0x68, addr] s))).2 = fun k => ticks s (k + 1)

theorem runningClockPort_runs (rtcCommId : UInt8) :
    RunsClock runningClockPort rtcCommId RunningClock.clock RunningClock.ticks where
  read := fun _ _ _ => rfl
  runs := fun _ _ => rfl
  next := fun _ _ => rfl

/-! ## The registers of the clock -/

theorem twoDigits_small {n : Nat} (h : n < 100) : bcdToBinary (twoDigits n) = UInt8.ofNat n := by
  have hall : ∀ n : Fin 100, bcdToBinary (twoDigits n.val) = UInt8.ofNat n.val := by decide
  exact hall ⟨n, h⟩

/-- The clock never halts. -/
theorem twoDigits_halt (n : Fin 60) : twoDigits n.val &&& ~~~(bit 7) = twoDigits n.val := by
  revert n
  decide

/-- What is made of an hours register. -/
theorem shownHours_register (c : ChipClock) :
    (shownHours (c.register ds3231AddrHrs)).1 = c.time.timeFormat
      ∧ bcdToBinary (shownHours (c.register ds3231AddrHrs)).2 = c.time.hours := by
  obtain ⟨twelve, seconds, minutes, hours, day, date, month, year⟩ := c
  -- nothing but the hour and the format matters
  have hall : ∀ (b : Bool) (h : Fin 24),
      (shownHours ((ChipClock.mk b 0 0 h 0 0 0 0).register ds3231AddrHrs)).1
          = (ChipClock.mk b 0 0 h 0 0 0 0).time.timeFormat
        ∧ bcdToBinary (shownHours ((ChipClock.mk b 0 0 h 0 0 0 0).register ds3231AddrHrs)).2
          = (ChipClock.mk b 0 0 h 0 0 0 0).time.hours := by
    decide
  exact hall twelve hours

/-- **The driver decodes a clock's registers**, each read from a clock of its own. -/
theorem timeOf_registers (c₀ c₁ c₂ : ChipClock) (h : c₂.twelve = c₀.twelve) :
    timeOf (c₀.register ds3231AddrSec) (c₁.register ds3231AddrMin) (c₂.register ds3231AddrHrs)
      = { c₀ with minutes := c₁.minutes, hours := c₂.hours : ChipClock }.time := by
  obtain ⟨hformat, hhours⟩ := shownHours_register c₂
  have hsec : c₀.register ds3231AddrSec = twoDigits c₀.seconds.val := rfl
  have hmin : c₁.register ds3231AddrMin = twoDigits c₁.minutes.val := rfl
  unfold timeOf
  rw [hformat, hhours, hsec, hmin, twoDigits_halt, twoDigits_small (by omega),
    twoDigits_small (by omega)]
  unfold ChipClock.time
  rw [h]

theorem dateOf_registers (c₀ c₁ c₂ c₃ : ChipClock) :
    dateOf (c₀.register ds3231AddrDay) (c₁.register ds3231AddrDate) (c₂.register ds3231AddrMonth)
        (c₃.register ds3231AddrYear)
      = { c₀ with date := c₁.date, month := c₂.month, year := c₃.year : ChipClock }.calendar := by
  have hday : c₀.register ds3231AddrDay = twoDigits (c₀.day.val + 1) := rfl
  have hdate : c₁.register ds3231AddrDate = twoDigits (c₁.date.val + 1) := rfl
  have hmonth : c₂.register ds3231AddrMonth = twoDigits (c₂.month.val + 1) := rfl
  have hyear : c₃.register ds3231AddrYear = twoDigits c₃.year.val := rfl
  have hweek : ∀ n : Fin 7, (UInt8.ofNat (n.val + 1)).toUInt32 = UInt32.ofNat (n.val + 1) := by
    decide
  unfold dateOf
  rw [hday, hdate, hmonth, hyear, twoDigits_small (by omega), twoDigits_small (by omega),
    twoDigits_small (by omega), twoDigits_small (by omega), hweek]
  rfl

/-! ## A value belongs to one clock -/

/-- Two clocks with the same time of day, in the same format. -/
structure SameTime (c c' : ChipClock) : Prop where
  twelve : c.twelve = c'.twelve
  seconds : c.seconds = c'.seconds
  minutes : c.minutes = c'.minutes
  hours : c.hours = c'.hours

/-- The format and the hour of a time, back again. -/
def hourBack (t : RtcTime) : Bool × Nat :=
  if t.timeFormat = timeFormat24Hrs then (false, t.hours.toNat)
  else (true, t.hours.toNat % 12 + if t.timeFormat = timeFormat12HrsPm then 12 else 0)

theorem hourBack_time (c : ChipClock) : hourBack c.time = (c.twelve, c.hours.val) := by
  obtain ⟨twelve, seconds, minutes, hours, day, date, month, year⟩ := c
  have hall : ∀ (b : Bool) (h : Fin 24),
      hourBack (ChipClock.mk b 0 0 h 0 0 0 0).time = (b, h.val) := by decide
  exact hall twelve hours

theorem ofNat_small_inj {a b : Nat} (ha : a < 256) (hb : b < 256)
    (h : UInt8.ofNat a = UInt8.ofNat b) : a = b := by
  have hnat := congrArg UInt8.toNat h
  rw [UInt8.toNat_ofNat', UInt8.toNat_ofNat'] at hnat
  omega

theorem time_inj {c c' : ChipClock} : c.time = c'.time ↔ SameTime c c' := by
  constructor
  · intro h
    have hback := congrArg hourBack h
    rw [hourBack_time, hourBack_time] at hback
    obtain ⟨htwelve, hhours⟩ := Prod.mk.inj hback
    exact ⟨htwelve, Fin.ext (ofNat_small_inj (by omega) (by omega) (congrArg RtcTime.seconds h)),
      Fin.ext (ofNat_small_inj (by omega) (by omega) (congrArg RtcTime.minutes h)), Fin.ext hhours⟩
  · intro ⟨htwelve, hsec, hmin, hhours⟩
    unfold ChipClock.time
    rw [htwelve, hsec, hmin, hhours]

theorem value_inj {c c' : ChipClock} : c.value = c'.value ↔ c = c' := by
  refine ⟨fun h => ?_, fun h => by rw [h]⟩
  obtain ⟨htwelve, hsec, hmin, hhours⟩ := time_inj.mp (congrArg RtcDateTime.time h)
  have hdates : c.calendar = c'.calendar := congrArg RtcDateTime.date h
  have hdate := ofNat_small_inj (by omega) (by omega) (congrArg RtcDate.date hdates)
  have hmonth := ofNat_small_inj (by omega) (by omega) (congrArg RtcDate.month hdates)
  have hyear := ofNat_small_inj (by omega) (by omega) (congrArg RtcDate.year hdates)
  have hday : c.day = c'.day := by
    have hall : ∀ d d' : Fin 7, UInt32.ofNat (d.val + 1) = UInt32.ofNat (d'.val + 1) → d = d' := by
      decide
    exact hall _ _ (congrArg RtcDate.day hdates)
  obtain ⟨twelve, seconds, minutes, hours, day, date, month, year⟩ := c
  obtain ⟨twelve', seconds', minutes', hours', day', date', month', year'⟩ := c'
  dsimp only at *
  rw [htwelve, hsec, hmin, hhours, hday, Fin.ext (Nat.succ.inj hdate),
    Fin.ext (Nat.succ.inj hmonth), Fin.ext hyear]

/-! ## Ticks -/

variable {c : ChipClock} {ticks : Nat → Nat}

theorem tick_seconds (c : ChipClock) (j : Nat) :
    (ChipClock.tick^[j] c).seconds.val = (c.seconds.val + j) % 60 := by
  induction j with
  | zero =>
      rw [Function.iterate_zero_apply]
      omega
  | succ j ih =>
      rw [Function.iterate_succ_apply']
      show (((ChipClock.tick^[j] c).seconds + 1 : Fin 60)).val = _
      rw [Fin.val_add, ih]
      show ((c.seconds.val + j) % 60 + 1) % 60 = _
      omega

theorem tick_twelve (c : ChipClock) (j : Nat) : (ChipClock.tick^[j] c).twelve = c.twelve := by
  induction j with
  | zero => rfl
  | succ j ih =>
      rw [Function.iterate_succ_apply']
      exact ih

/-- Within a minute no two instants have the same seconds. -/
theorem first_of_seconds {j : Nat} (hj : j < 60)
    (h : (ChipClock.tick^[j] c).seconds = c.seconds) : j = 0 := by
  have hsec := tick_seconds c j
  rw [h] at hsec
  omega

theorem clockAt_eq (c : ChipClock) (ticks : Nat → Nat) : ∀ k,
    clockAt c ticks k = ChipClock.tick^[elapsedTicks ticks k] (clockAt c ticks 0)
  | 0 => rfl
  | k + 1 => by
      show ChipClock.tick^[ticks (k + 1)] (clockAt c ticks k) = _
      rw [clockAt_eq c ticks k, ← Function.iterate_add_apply, Nat.add_comm]
      rfl

theorem clockAt_twelve (c : ChipClock) (ticks : Nat → Nat) (k : Nat) :
    (clockAt c ticks k).twelve = (clockAt c ticks 0).twelve := by
  rw [clockAt_eq]
  exact tick_twelve _ _

/-! ## What a call returns -/

/-- The clock with the time of three instants. -/
def timeTogether (clock : Nat → ChipClock) : ChipClock :=
  { clock 0 with minutes := (clock 1).minutes, hours := (clock 2).hours }

/-- The clock with the time and the date of seven. -/
def valueTogether (clock : Nat → ChipClock) : ChipClock :=
  { timeTogether clock with
    day := (clock 3).day
    date := (clock 4).date
    month := (clock 5).month
    year := (clock 6).year }

/-- The clocks from the second transaction on. -/
theorem clockAt_next (c : ChipClock) (ticks : Nat → Nat) : ∀ k,
    clockAt (ChipClock.tick^[ticks 0] c) (fun k => ticks (k + 1)) k = clockAt c ticks (k + 1)
  | 0 => rfl
  | k + 1 => congrArg ChipClock.tick^[ticks (k + 2)] (clockAt_next c ticks k)

section Calls

variable {σ : Type} {comm : Comm σ} {rtcCommId : UInt8} {clock : σ → ChipClock}
  {times : σ → Nat → Nat} (h : RunsClock comm rtcCommId clock times) (s : σ)
include h

theorem rtcRead_running {addr : UInt8} (haddr : addr ≤ ds3231AddrYear) :
    (rtcRead comm rtcCommId addr s).1 = (clockAt (clock s) (times s) 0).register addr :=
  h.read s addr haddr

theorem rtcRead_clocks (addr : UInt8) :
    clockAt (clock (rtcRead comm rtcCommId addr s).2) (times (rtcRead comm rtcCommId addr s).2)
      = fun k => clockAt (clock s) (times s) (k + 1) := by
  have hruns : clock (rtcRead comm rtcCommId addr s).2 = _ := h.runs s addr
  have hnext : times (rtcRead comm rtcCommId addr s).2 = _ := h.next s addr
  rw [hruns, hnext]
  exact funext (clockAt_next _ _)

theorem rtcGetCurrentTime_running :
    (rtcGetCurrentTime comm rtcCommId s).1 = (timeTogether (clockAt (clock s) (times s))).time
      ∧ clockAt (clock (rtcGetCurrentTime comm rtcCommId s).2)
        (times (rtcGetCurrentTime comm rtcCommId s).2)
        = fun k => clockAt (clock s) (times s) (k + 3) := by
  rw [rtcGetCurrentTime_reads]
  dsimp only
  rw [rtcRead_running h _ (by decide), rtcRead_running h _ (by decide),
    rtcRead_running h _ (by decide)]
  simp only [rtcRead_clocks h]
  exact ⟨timeOf_registers _ _ _ (clockAt_twelve _ _ 2), trivial⟩

theorem rtcGetCurrentDate_running :
    (rtcGetCurrentDate comm rtcCommId s).1
      = dateOf ((clockAt (clock s) (times s) 0).register ds3231AddrDay)
        ((clockAt (clock s) (times s) 1).register ds3231AddrDate)
        ((clockAt (clock s) (times s) 2).register ds3231AddrMonth)
        ((clockAt (clock s) (times s) 3).register ds3231AddrYear) := by
  rw [rtcGetCurrentDate_reads]
  dsimp only
  rw [rtcRead_running h _ (by decide), rtcRead_running h _ (by decide),
    rtcRead_running h _ (by decide), rtcRead_running h _ (by decide)]
  simp only [rtcRead_clocks h]

theorem rtcGet_running :
    (rtcGet comm rtcCommId s).1 = (valueTogether (clockAt (clock s) (times s))).value := by
  obtain ⟨htime, hclocks⟩ := rtcGetCurrentTime_running h s
  have hdate := rtcGetCurrentDate_running h (rtcGetCurrentTime comm rtcCommId s).2
  rw [hclocks, dateOf_registers] at hdate
  unfold rtcGet
  dsimp only
  rw [htime, hdate]
  rfl

end Calls

/-! ## One instant -/

/-- At some instant from the first transaction to the `k`-th the clock shows `v`. -/
def ShownDuring {α : Type} (view : ChipClock → α) (c : ChipClock) (ticks : Nat → Nat) (k : Nat)
    (v : α) : Prop :=
  ∃ j ≤ elapsedTicks ticks k, view (ChipClock.tick^[j] (clockAt c ticks 0)) = v

/--
**When a reading is of one instant.**

For every chip that runs a clock, however this ticks among the transactions of one call. What
`rtc_get_current_time` returns is put together from the clock at the first transaction,
the second and the third, and what `rtc_get` returns from the clock at seven. The chip
showed it at one instant between the first and the last of them if and only if its clock
was, at one of these instants, the one put together; that is so if no field had changed
since the first transaction by the time it was read; and in a call of less than a minute,
only then.
-/
theorem rtc_oneInstant_iff {σ : Type} (comm : Comm σ) (rtcCommId : UInt8)
    (clock : σ → ChipClock) (times : σ → Nat → Nat) (h : RunsClock comm rtcCommId clock times)
    (s : σ) :
    let c := clock s
    let ticks := times s
    let time := (rtcGetCurrentTime comm rtcCommId s).1
    let value := (rtcGet comm rtcCommId s).1
    let first := clockAt c ticks 0
    let seenTime := timeTogether (clockAt c ticks)
    let seen := valueTogether (clockAt c ticks)
    (time = seenTime.time ∧ value = seen.value)
      ∧ (ShownDuring ChipClock.time c ticks 2 time
        ↔ ∃ j ≤ elapsedTicks ticks 2, SameTime (ChipClock.tick^[j] first) seenTime)
      ∧ (ShownDuring ChipClock.value c ticks 6 value
        ↔ ∃ j ≤ elapsedTicks ticks 6, ChipClock.tick^[j] first = seen)
      ∧ (seenTime = first → time = first.time) ∧ (seen = first → value = first.value)
      ∧ (elapsedTicks ticks 2 < 60 →
        (ShownDuring ChipClock.time c ticks 2 time ↔ seenTime = first))
      ∧ (elapsedTicks ticks 6 < 60 →
        (ShownDuring ChipClock.value c ticks 6 value ↔ seen = first)) := by
  intro c ticks time value first seenTime seen
  have htime : time = seenTime.time := (rtcGetCurrentTime_running h s).1
  have hvalue : value = seen.value := rtcGet_running h s
  have hshown : ShownDuring ChipClock.time c ticks 2 time
      ↔ ∃ j ≤ elapsedTicks ticks 2, SameTime (ChipClock.tick^[j] first) seenTime := by
    rw [htime]
    exact exists_congr fun j => and_congr_right fun _ => time_inj
  have hshown' : ShownDuring ChipClock.value c ticks 6 value
      ↔ ∃ j ≤ elapsedTicks ticks 6, ChipClock.tick^[j] first = seen := by
    rw [hvalue]
    exact exists_congr fun j => and_congr_right fun _ => value_inj
  refine ⟨⟨htime, hvalue⟩, hshown, hshown', fun h => by rw [htime, h],
    fun h => by rw [hvalue, h], fun hshort => hshown.trans ⟨fun ⟨j, hj, hsame⟩ => ?_, fun h => ?_⟩,
    fun hshort => hshown'.trans ⟨fun ⟨j, hj, hsame⟩ => ?_, fun h => ?_⟩⟩
  · -- the seconds put together are those of the first transaction
    obtain rfl := first_of_seconds (Nat.lt_of_le_of_lt hj hshort) hsame.seconds
    obtain ⟨_, _, hmin, hhours⟩ := hsame
    show { first with minutes := seenTime.minutes, hours := seenTime.hours : ChipClock } = first
    rw [← hmin, ← hhours]
    rfl
  · exact ⟨0, Nat.zero_le _, by rw [h]; exact ⟨rfl, rfl, rfl, rfl⟩⟩
  · have hsec : (ChipClock.tick^[j] first).seconds = first.seconds := by
      rw [hsame]
      rfl
    obtain rfl := first_of_seconds (Nat.lt_of_le_of_lt hj hshort) hsec
    exact hsame.symm
  · exact ⟨0, Nat.zero_le _, h.symm⟩

/-- A second before eleven, in the morning of the last day of February. -/
def beforeEleven : ChipClock where
  twelve := false
  seconds := ⟨59, by decide⟩
  minutes := ⟨59, by decide⟩
  hours := ⟨10, by decide⟩
  day := ⟨3, by decide⟩
  date := ⟨28, by decide⟩
  month := ⟨1, by decide⟩
  year := ⟨24, by decide⟩

/-- One tick, after the first transaction. -/
def tickAfterSeconds : Nat → Nat := fun k => if k = 1 then 1 else 0

/--
The driver reads 59 seconds, then no minutes and eleven hours; the chip showed 10:59:59
and then 11:00:00.
-/
theorem beforeEleven_torn :
    (rtcGetCurrentTime runningClockPort 1 ⟨beforeEleven, tickAfterSeconds, 0⟩).1
        = ⟨59, 0, 11, timeFormat24Hrs⟩
      ∧ ¬ShownDuring ChipClock.time beforeEleven tickAfterSeconds 2
        (rtcGetCurrentTime runningClockPort 1 ⟨beforeEleven, tickAfterSeconds, 0⟩).1
      ∧ ¬ShownDuring ChipClock.value beforeEleven tickAfterSeconds 6
        (rtcGet runningClockPort 1 ⟨beforeEleven, tickAfterSeconds, 0⟩).1 := by
  have htwo : ∀ j, j ≤ 1 → j = 0 ∨ j = 1 := by omega
  refine ⟨by decide, fun ⟨j, hj, h⟩ => ?_, fun ⟨j, hj, h⟩ => ?_⟩
  · rcases htwo j hj with rfl | rfl
    · exact absurd h (by decide)
    · exact absurd h (by decide)
  · rcases htwo j hj with rfl | rfl
    · exact absurd h (by decide)
    · exact absurd h (by decide)

/-- A chip that does not tick during the call is read as it is, and one that ticks once is not. -/
theorem rtc_oneInstant_iff_beforeEleven :
    (rtcGet runningClockPort 1 ⟨beforeEleven, fun _ => 0, 0⟩).1 = beforeEleven.value
      ∧ ShownDuring ChipClock.value beforeEleven (fun _ => 0) 6
        (rtcGet runningClockPort 1 ⟨beforeEleven, fun _ => 0, 0⟩).1
      ∧ ¬ShownDuring ChipClock.value beforeEleven tickAfterSeconds 6
        (rtcGet runningClockPort 1 ⟨beforeEleven, tickAfterSeconds, 0⟩).1 := by
  have hchip := fun ticks => rtc_oneInstant_iff runningClockPort 1 _ _ (runningClockPort_runs 1)
    ⟨beforeEleven, ticks, 0⟩
  obtain ⟨_, _, _, _, hvalue, _, hstill⟩ := hchip fun _ => 0
  obtain ⟨_, _, _, _, _, _, htorn⟩ := hchip tickAfterSeconds
  refine ⟨hvalue (by decide), (hstill (by decide)).mpr (by decide), fun hshown => ?_⟩
  exact absurd ((htorn (by decide)).mp hshown) (by decide)

end FwCore.Proof
