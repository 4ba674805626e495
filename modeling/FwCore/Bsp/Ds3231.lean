import FwCore.Bsp.Rtc
import Mathlib.Logic.Function.Basic
import Mathlib.Logic.Function.Iterate

/-!
# The chip behind the real-time clock

Nothing here is translated from the source, which has the driver only. `Ds3231` is the
chip as a register file whose clock stands still, and `RunningClock` the chip whose clock
ticks, though not during a transaction: how often it does before each is part of its
state, and so up to whoever states something about it.
-/

namespace FwCore

/-! ## A register file -/

/-- The registers, and the one that is read next. -/
structure Ds3231 where
  registers : UInt8 → UInt8
  pointer : UInt8

/-- The chip on every port. -/
def ds3231Port : Comm Ds3231 where
  send := fun _ buf s =>
    match buf with
    | [chip, addr, value] =>
      if chip = ds3231I2cAddress then ⟨Function.update s.registers addr value, addr + 1⟩ else s
    | [chip, addr] => if chip = ds3231I2cAddress then { s with pointer := addr } else s
    | _ => s
  receive := fun _ s => (s.registers s.pointer, { s with pointer := s.pointer + 1 })

/-! ## A calendar -/

/-- What the clock of the chip counts. Days, dates and months count from zero. -/
structure ChipClock where
  /-- Whether the hours register is in the 12-hour format. -/
  twelve : Bool
  seconds : Fin 60
  minutes : Fin 60
  hours : Fin 24
  day : Fin 7
  date : Fin 31
  month : Fin 12
  year : Fin 100
deriving DecidableEq, Repr

/-- How long a month is. The century begins with a leap year. -/
def daysInMonth (month : Fin 12) (year : Fin 100) : Nat :=
  if month = 1 then (if year.val % 4 = 0 then 29 else 28)
  else if month = 3 ∨ month = 5 ∨ month = 8 ∨ month = 10 then 30
  else 31

/-- One second later. -/
def ChipClock.tick (c : ChipClock) : ChipClock :=
  let minute : Bool := c.seconds = 59
  let hour : Bool := minute && c.minutes = 59
  let midnight : Bool := hour && c.hours = 23
  let month : Bool := midnight && daysInMonth c.month c.year ≤ c.date.val + 1
  let year : Bool := month && c.month = 11
  { c with
    seconds := c.seconds + 1
    minutes := if minute then c.minutes + 1 else c.minutes
    hours := if hour then c.hours + 1 else c.hours
    day := if midnight then c.day + 1 else c.day
    date := if month then 0 else if midnight then c.date + 1 else c.date
    month := if month then c.month + 1 else c.month
    year := if year then c.year + 1 else c.year }

/-- The hour of half a day. -/
def hourOfHalf (hours : Fin 24) : Nat := if hours.val % 12 = 0 then 12 else hours.val % 12

/-- Two decimal digits. -/
def twoDigits (n : Nat) : UInt8 := UInt8.ofNat (n / 10 * 16 + n % 10)

/-- What a register of the clock holds. -/
def ChipClock.register (c : ChipClock) (addr : UInt8) : UInt8 :=
  if addr = ds3231AddrSec then twoDigits c.seconds.val
  else if addr = ds3231AddrMin then twoDigits c.minutes.val
  else if addr = ds3231AddrHrs then
    if c.twelve then 0x40 + (if 12 ≤ c.hours.val then 0x20 else 0) + twoDigits (hourOfHalf c.hours)
    else twoDigits c.hours.val
  else if addr = ds3231AddrDay then twoDigits (c.day.val + 1)
  else if addr = ds3231AddrDate then twoDigits (c.date.val + 1)
  else if addr = ds3231AddrMonth then twoDigits (c.month.val + 1)
  else if addr = ds3231AddrYear then twoDigits c.year.val
  else 0

/-- The time the clock shows. -/
def ChipClock.time (c : ChipClock) : RtcTime where
  seconds := UInt8.ofNat c.seconds.val
  minutes := UInt8.ofNat c.minutes.val
  hours := if c.twelve then UInt8.ofNat (hourOfHalf c.hours) else UInt8.ofNat c.hours.val
  timeFormat :=
    if c.twelve then (if 12 ≤ c.hours.val then timeFormat12HrsPm else timeFormat12HrsAm)
    else timeFormat24Hrs

/-- The date the clock shows. -/
def ChipClock.calendar (c : ChipClock) : RtcDate where
  date := UInt8.ofNat (c.date.val + 1)
  month := UInt8.ofNat (c.month.val + 1)
  year := UInt8.ofNat c.year.val
  day := UInt32.ofNat (c.day.val + 1)

/-- Both. -/
def ChipClock.value (c : ChipClock) : RtcDateTime := ⟨c.calendar, c.time⟩

/-! ## A clock that runs -/

/-- A clock that is read. -/
structure RunningClock where
  clock : ChipClock
  /-- How often the clock will tick before each of the transactions to come. -/
  ticks : Nat → Nat
  pointer : UInt8

/--
The chip on every port, as far as reading goes: a transaction begins with a register's address.
-/
def runningClockPort : Comm RunningClock where
  send := fun _ buf s =>
    match buf with
    | [chip, addr] =>
      if chip = ds3231I2cAddress then
        ⟨ChipClock.tick^[s.ticks 0] s.clock, fun k => s.ticks (k + 1), addr⟩
      else s
    | _ => s
  receive := fun _ s => (s.clock.register s.pointer, { s with pointer := s.pointer + 1 })

/-- The clock at the `k`-th transaction. -/
def clockAt (c : ChipClock) (ticks : Nat → Nat) : Nat → ChipClock
  | 0 => ChipClock.tick^[ticks 0] c
  | k + 1 => ChipClock.tick^[ticks (k + 1)] (clockAt c ticks k)

/-- How often the clock ticks between the first transaction and the `k`-th. -/
def elapsedTicks (ticks : Nat → Nat) : Nat → Nat
  | 0 => 0
  | k + 1 => elapsedTicks ticks k + ticks (k + 1)

end FwCore
