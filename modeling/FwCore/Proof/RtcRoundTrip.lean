import FwCore.Bsp.Ds3231
import Mathlib.Logic.Function.Basic

/-!
# The clock is read back as it was set

Behind the port is taken to be a `RegisterFile`: a register keeps what was last written
to it. What the driver reads is then a function of the seven registers, `shownTime` of
three and `shownDate` of the other four, and a setter writes registers that show what it
was given. Neither setter writes a register of the other.
-/

namespace FwCore.Proof

open FwCore

section

variable {σ : Type} {comm : Comm σ} {rtcCommId : UInt8} {reg : σ → UInt8 → UInt8}

/-- Behind the port is a chip at the driver's address with registers that keep what is written. -/
structure RegisterFile (comm : Comm σ) (rtcCommId : UInt8) (reg : σ → UInt8 → UInt8) : Prop where
  /-- A message of three bytes stores the last in the register the second names. -/
  write : ∀ s addr value,
    reg (comm.send rtcCommId [0x68, addr, value] s) = Function.update (reg s) addr value
  /-- A message of two bytes, one of the chip's address, and a byte back, read a register. -/
  read : ∀ s addr, (comm.receive rtcCommId (comm.send rtcCommId [0x68]
    (comm.send rtcCommId [0x68, addr] s))).1 = reg s addr
  /-- A read changes no register. -/
  keeps : ∀ s addr, reg (comm.receive rtcCommId (comm.send rtcCommId [0x68]
    (comm.send rtcCommId [0x68, addr] s))).2 = reg s

/-! ## Digits -/

/-- What holds of the first `b` bytes, one by one, holds of a byte below `b`. -/
theorem byte_below {b : Nat} {P : UInt8 → Prop} (hall : ∀ n : Fin b, P (UInt8.ofNat n.val))
    {v : UInt8} (hv : v.toNat < b) : P v := by
  have hp := hall ⟨v.toNat, hv⟩
  rw [UInt8.ofNat_toNat] at hp
  exact hp

/-- Two digits are what a byte of two digits shows. -/
theorem bcd_roundTrip {v : UInt8} (h : v ≤ 99) : bcdToBinary (binaryToBcd v) = v :=
  byte_below (b := 100) (P := fun v => bcdToBinary (binaryToBcd v) = v) (by decide)
    (Nat.lt_succ_of_le h)

/-- Below sixty the halt bit is not in use. -/
theorem bcd_halt {v : UInt8} (h : v ≤ 59) :
    binaryToBcd v &&& ~~~(bit 7) &&& ~~~(bit 7) = binaryToBcd v :=
  byte_below (b := 60)
    (P := fun v => binaryToBcd v &&& ~~~(bit 7) &&& ~~~(bit 7) = binaryToBcd v) (by decide)
    (Nat.lt_succ_of_le h)

/-! ## What the registers show -/

/-- The format and the hour an hours register shows. -/
def shownHours (hrs : UInt8) : UInt8 × UInt8 :=
  if hrs &&& bit 6 ≠ 0 then
    ((if hrs &&& bit 5 = 0 then (0 : UInt8) else 1), hrs &&& ~~~((0x3 : UInt8) <<< 5))
  else (timeFormat24Hrs, hrs)

/-- The time three registers show. -/
def timeOf (sec min hrs : UInt8) : RtcTime where
  seconds := bcdToBinary (sec &&& ~~~(bit 7))
  minutes := bcdToBinary min
  hours := bcdToBinary (shownHours hrs).2
  timeFormat := (shownHours hrs).1

/-- The date four registers show. -/
def dateOf (day date month year : UInt8) : RtcDate where
  date := bcdToBinary date
  month := bcdToBinary month
  year := bcdToBinary year
  day := (bcdToBinary day).toUInt32

/-- What `rtc_set_current_time` writes to the hours register. -/
def hoursRegister (timeFormat hours : UInt8) : UInt8 :=
  if timeFormat = timeFormat24Hrs then binaryToBcd hours &&& ~~~(bit 6)
  else
    let hrs := binaryToBcd hours ||| bit 6
    if timeFormat = timeFormat12HrsPm then hrs ||| bit 5 else hrs &&& ~~~(bit 5)

/-- The hours a driver is given: of the day, or of one of its halves. -/
def HoursInRange (t : RtcTime) : Prop :=
  (t.timeFormat = timeFormat24Hrs ∧ t.hours ≤ 23)
    ∨ ((t.timeFormat = timeFormat12HrsAm ∨ t.timeFormat = timeFormat12HrsPm)
      ∧ 1 ≤ t.hours ∧ t.hours ≤ 12)

/-- A time of day. -/
structure TimeInRange (t : RtcTime) : Prop where
  seconds : t.seconds ≤ 59
  minutes : t.minutes ≤ 59
  hours : HoursInRange t

/-- A date, the year counted within its century. -/
structure DateInRange (d : RtcDate) : Prop where
  date : 1 ≤ d.date ∧ d.date ≤ 31
  month : 1 ≤ d.month ∧ d.month ≤ 12
  year : d.year ≤ 99
  day : 1 ≤ d.day ∧ d.day ≤ 7

/-- An hours register written for this hour and format shows them. -/
def KeepsHours (timeFormat hours : UInt8) : Prop :=
  (shownHours (hoursRegister timeFormat hours)).1 = timeFormat
    ∧ bcdToBinary (shownHours (hoursRegister timeFormat hours)).2 = hours

instance (timeFormat hours : UInt8) : Decidable (KeepsHours timeFormat hours) :=
  inferInstanceAs (Decidable (_ ∧ _))

/-- **The hours register keeps the hour and the format apart.** -/
theorem hours_roundTrip {t : RtcTime} (h : HoursInRange t) : KeepsHours t.timeFormat t.hours := by
  rcases h with ⟨hf, hh⟩ | ⟨hf | hf, _, hh⟩
  · -- all 24 hours, bit 5 being a digit
    rw [hf]
    exact byte_below (b := 24) (P := KeepsHours timeFormat24Hrs) (by decide) (Nat.lt_succ_of_le hh)
  · rw [hf]
    exact byte_below (b := 13) (P := KeepsHours timeFormat12HrsAm) (by decide)
      (Nat.lt_succ_of_le hh)
  · rw [hf]
    exact byte_below (b := 13) (P := KeepsHours timeFormat12HrsPm) (by decide)
      (Nat.lt_succ_of_le hh)

/-- What a time in range is written as shows that time. -/
theorem timeOf_set {t : RtcTime} (h : TimeInRange t) :
    timeOf (binaryToBcd t.seconds &&& ~~~(bit 7)) (binaryToBcd t.minutes)
      (hoursRegister t.timeFormat t.hours) = t := by
  have hsixty : (59 : UInt8) ≤ 99 := by decide
  obtain ⟨hformat, hhours⟩ := hours_roundTrip h.hours
  unfold timeOf
  rw [bcd_halt h.seconds, bcd_roundTrip (UInt8.le_trans h.seconds hsixty),
    bcd_roundTrip (UInt8.le_trans h.minutes hsixty), hformat, hhours]

theorem dateOf_set {d : RtcDate} (h : DateInRange d) :
    dateOf (binaryToBcd d.day.toUInt8) (binaryToBcd d.date) (binaryToBcd d.month)
      (binaryToBcd d.year) = d := by
  have hday : d.day.toNat ≤ 7 := h.day.2
  have hsmall : d.day.toUInt8.toNat = d.day.toNat := by
    rw [UInt32.toNat_toUInt8]
    exact Nat.mod_eq_of_lt (by omega)
  have hday' : d.day.toUInt8 ≤ 99 := by
    rw [UInt8.le_iff_toNat_le, hsmall]
    exact Nat.le_trans hday (by decide)
  have hback : d.day.toUInt8.toUInt32 = d.day := by
    apply UInt32.toNat.inj
    rw [UInt8.toNat_toUInt32, hsmall]
  unfold dateOf
  rw [bcd_roundTrip hday', hback, bcd_roundTrip (UInt8.le_trans h.date.2 (by decide)),
    bcd_roundTrip (UInt8.le_trans h.month.2 (by decide)), bcd_roundTrip h.year]

/-! ## The calls -/

/-- The time a register file shows. -/
def shownTime (r : UInt8 → UInt8) : RtcTime :=
  timeOf (r ds3231AddrSec) (r ds3231AddrMin) (r ds3231AddrHrs)

/-- The date it shows. -/
def shownDate (r : UInt8 → UInt8) : RtcDate :=
  dateOf (r ds3231AddrDay) (r ds3231AddrDate) (r ds3231AddrMonth) (r ds3231AddrYear)

/-- `rtc_get_current_time` is three reads, one after the other. -/
theorem rtcGetCurrentTime_reads (s : σ) : rtcGetCurrentTime comm rtcCommId s =
    let sec := rtcRead comm rtcCommId ds3231AddrSec s
    let min := rtcRead comm rtcCommId ds3231AddrMin sec.2
    let hrs := rtcRead comm rtcCommId ds3231AddrHrs min.2
    (timeOf sec.1 min.1 hrs.1, hrs.2) := rfl

/-- `rtc_get_current_date` is four. -/
theorem rtcGetCurrentDate_reads (s : σ) : rtcGetCurrentDate comm rtcCommId s =
    let day := rtcRead comm rtcCommId ds3231AddrDay s
    let date := rtcRead comm rtcCommId ds3231AddrDate day.2
    let month := rtcRead comm rtcCommId ds3231AddrMonth date.2
    let year := rtcRead comm rtcCommId ds3231AddrYear month.2
    (dateOf day.1 date.1 month.1 year.1, year.2) := rfl

section Calls

variable (h : RegisterFile comm rtcCommId reg) (s : σ)
include h

theorem rtcRead_value (addr : UInt8) : (rtcRead comm rtcCommId addr s).1 = reg s addr :=
  h.read s addr

theorem rtcRead_keeps (addr : UInt8) : reg (rtcRead comm rtcCommId addr s).2 = reg s :=
  h.keeps s addr

theorem rtcWrite_spec (value addr : UInt8) :
    reg (rtcWrite comm rtcCommId value addr s) = Function.update (reg s) addr value :=
  h.write s addr value

theorem rtcGetCurrentTime_spec : (rtcGetCurrentTime comm rtcCommId s).1 = shownTime (reg s)
    ∧ reg (rtcGetCurrentTime comm rtcCommId s).2 = reg s := by
  rw [rtcGetCurrentTime_reads]
  simp only [rtcRead_value h, rtcRead_keeps h]
  exact ⟨rfl, trivial⟩

theorem rtcGetCurrentDate_spec : (rtcGetCurrentDate comm rtcCommId s).1 = shownDate (reg s)
    ∧ reg (rtcGetCurrentDate comm rtcCommId s).2 = reg s := by
  rw [rtcGetCurrentDate_reads]
  simp only [rtcRead_value h, rtcRead_keeps h]
  exact ⟨rfl, trivial⟩

theorem rtcGet_spec : (rtcGet comm rtcCommId s).1 = ⟨shownDate (reg s), shownTime (reg s)⟩
    ∧ reg (rtcGet comm rtcCommId s).2 = reg s := by
  have htime := rtcGetCurrentTime_spec h s
  have hdate := rtcGetCurrentDate_spec h (rtcGetCurrentTime comm rtcCommId s).2
  rw [htime.2] at hdate
  unfold rtcGet
  dsimp only
  rw [htime.1, hdate.1]
  exact ⟨rfl, hdate.2⟩

/-- **Setting the time** sets the time, and leaves the date. -/
theorem rtcSetCurrentTime_spec {t : RtcTime} (ht : TimeInRange t) :
    shownTime (reg (rtcSetCurrentTime comm rtcCommId t s)) = t
      ∧ shownDate (reg (rtcSetCurrentTime comm rtcCommId t s)) = shownDate (reg s) := by
  have hregs : reg (rtcSetCurrentTime comm rtcCommId t s)
      = Function.update (Function.update (Function.update (reg s)
          ds3231AddrSec (binaryToBcd t.seconds &&& ~~~(bit 7)))
          ds3231AddrMin (binaryToBcd t.minutes))
          ds3231AddrHrs (hoursRegister t.timeFormat t.hours) := by
    unfold rtcSetCurrentTime
    dsimp only
    rw [rtcWrite_spec h, rtcWrite_spec h, rtcWrite_spec h]
    rfl
  rw [hregs]
  constructor
  · refine Eq.trans ?_ (timeOf_set ht)
    unfold shownTime
    simp [Function.update, ds3231AddrSec, ds3231AddrMin, ds3231AddrHrs]
  · unfold shownDate
    simp [Function.update, ds3231AddrSec, ds3231AddrMin, ds3231AddrHrs, ds3231AddrDay,
      ds3231AddrDate, ds3231AddrMonth, ds3231AddrYear]

/-- **Setting the date** sets the date, and leaves the time. -/
theorem rtcSetCurrentDate_spec {d : RtcDate} (hd : DateInRange d) :
    shownDate (reg (rtcSetCurrentDate comm rtcCommId d s)) = d
      ∧ shownTime (reg (rtcSetCurrentDate comm rtcCommId d s)) = shownTime (reg s) := by
  have hregs : reg (rtcSetCurrentDate comm rtcCommId d s)
      = Function.update (Function.update (Function.update (Function.update (reg s)
          ds3231AddrDate (binaryToBcd d.date)) ds3231AddrMonth (binaryToBcd d.month))
          ds3231AddrYear (binaryToBcd d.year)) ds3231AddrDay (binaryToBcd d.day.toUInt8) := by
    unfold rtcSetCurrentDate
    dsimp only
    rw [rtcWrite_spec h, rtcWrite_spec h, rtcWrite_spec h, rtcWrite_spec h]
  rw [hregs]
  constructor
  · refine Eq.trans ?_ (dateOf_set hd)
    unfold shownDate
    simp [Function.update, ds3231AddrDay, ds3231AddrDate, ds3231AddrMonth, ds3231AddrYear]
  · unfold shownTime
    simp [Function.update, ds3231AddrSec, ds3231AddrMin, ds3231AddrHrs, ds3231AddrDay,
      ds3231AddrDate, ds3231AddrMonth, ds3231AddrYear]

end Calls

/-! ## Runs -/

/-- What a call makes of the date and time the clock is set to. -/
def rtcSetTo (dt : RtcDateTime) : RtcOp → RtcDateTime
  | .setCurrentTime rtcTime => { dt with time := rtcTime }
  | .setCurrentDate rtcDate => { dt with date := rtcDate }
  | .set rtcDateTime => rtcDateTime
  | .getCurrentTime | .getCurrentDate | .get => dt

/-- A setter is given values in range. -/
def RtcOpInRange : RtcOp → Prop
  | .setCurrentTime rtcTime => TimeInRange rtcTime
  | .setCurrentDate rtcDate => DateInRange rtcDate
  | .set rtcDateTime => DateInRange rtcDateTime.date ∧ TimeInRange rtcDateTime.time
  | .getCurrentTime | .getCurrentDate | .get => True

/-- The date and time a register file shows. -/
def shown (r : UInt8 → UInt8) : RtcDateTime := ⟨shownDate r, shownTime r⟩

theorem rtcSet_spec (h : RegisterFile comm rtcCommId reg) (s : σ) {dt : RtcDateTime}
    (hd : DateInRange dt.date) (ht : TimeInRange dt.time) :
    shown (reg (rtcSet comm rtcCommId dt s)) = dt := by
  obtain ⟨htime, _⟩ := rtcSetCurrentTime_spec h s ht
  obtain ⟨hdate, hkept⟩ :=
    rtcSetCurrentDate_spec h (rtcSetCurrentTime comm rtcCommId dt.time s) hd
  show RtcDateTime.mk (shownDate (reg (rtcSetCurrentDate comm rtcCommId dt.date
    (rtcSetCurrentTime comm rtcCommId dt.time s)))) _ = dt
  rw [hdate]
  exact congrArg (RtcDateTime.mk dt.date) (hkept.trans htime)

/-- **Each call leaves the registers showing what the clock is set to.** -/
theorem rtcCall_spec (h : RegisterFile comm rtcCommId reg) (s : σ) {op : RtcOp}
    (hop : RtcOpInRange op) :
    shown (reg (rtcCall comm rtcCommId s op)) = rtcSetTo (shown (reg s)) op := by
  cases op with
  | setCurrentTime rtcTime =>
      obtain ⟨htime, hdate⟩ := rtcSetCurrentTime_spec h s hop
      exact congrArg₂ RtcDateTime.mk hdate htime
  | setCurrentDate rtcDate =>
      obtain ⟨hdate, htime⟩ := rtcSetCurrentDate_spec h s hop
      exact congrArg₂ RtcDateTime.mk hdate htime
  | set rtcDateTime => exact rtcSet_spec h s hop.1 hop.2
  | getCurrentTime => exact congrArg shown (rtcGetCurrentTime_spec h s).2
  | getCurrentDate => exact congrArg shown (rtcGetCurrentDate_spec h s).2
  | get => exact congrArg shown (rtcGet_spec h s).2

theorem rtcRun_spec (h : RegisterFile comm rtcCommId reg) : ∀ (ops : List RtcOp) (s : σ),
    (∀ op ∈ ops, RtcOpInRange op) →
      shown (reg (rtcRun comm rtcCommId s ops)) = ops.foldl rtcSetTo (shown (reg s))
  | [], _, _ => rfl
  | op :: ops, s, hops => by
      have hstep := rtcCall_spec h s (hops op List.mem_cons_self)
      have hrest := rtcRun_spec h ops (rtcCall comm rtcCommId s op)
        (fun op' hop' => hops op' (List.mem_cons_of_mem op hop'))
      rw [hstep] at hrest
      exact hrest

/--
**The clock is read back as it was last set.**

For every chip that is a register file, whatever its registers hold, and every sequence
of calls whose setters are given values in range: `rtc_get`, `rtc_get_current_time` and
`rtc_get_current_date` return the time, its format included, and the date that were set
last; and where one of the two was never set, it is what could be read before the first
call.
-/
theorem rtc_roundTrip (comm : Comm σ) (rtcCommId : UInt8) (reg : σ → UInt8 → UInt8)
    (h : RegisterFile comm rtcCommId reg) (s : σ) (ops : List RtcOp)
    (hops : ∀ op ∈ ops, RtcOpInRange op) :
    let before := (rtcGet comm rtcCommId s).1
    let after := rtcRun comm rtcCommId s ops
    (rtcGet comm rtcCommId after).1 = ops.foldl rtcSetTo before
      ∧ (rtcGetCurrentTime comm rtcCommId after).1 = (ops.foldl rtcSetTo before).time
      ∧ (rtcGetCurrentDate comm rtcCommId after).1 = (ops.foldl rtcSetTo before).date := by
  intro before after
  have hbefore : before = shown (reg s) := (rtcGet_spec h s).1
  have hrun := rtcRun_spec h ops s hops
  rw [hbefore, ← hrun]
  exact ⟨(rtcGet_spec h after).1, (rtcGetCurrentTime_spec h after).1,
    (rtcGetCurrentDate_spec h after).1⟩

end

/-! ## A chip that is one -/

theorem ds3231Port_registers (commId : UInt8) :
    RegisterFile ds3231Port commId Ds3231.registers where
  write := fun _ _ _ => rfl
  read := fun _ _ => rfl
  keeps := fun _ _ => rfl

/-- A date and time, and then a quarter past eleven at night in the other format. -/
def setTwice : List RtcOp :=
  [.set ⟨⟨29, 2, 24, 5⟩, ⟨58, 59, 23, timeFormat24Hrs⟩⟩,
    .setCurrentTime ⟨0, 15, 11, timeFormat12HrsPm⟩]

theorem setTwice_inRange : ∀ op ∈ setTwice, RtcOpInRange op := by
  intro op hop
  rcases List.mem_cons.mp hop with rfl | hop
  · exact ⟨⟨by decide, by decide, by decide, by decide⟩, by decide, by decide, Or.inl (by decide)⟩
  · obtain rfl := List.mem_singleton.mp hop
    exact ⟨by decide, by decide, Or.inr (by decide)⟩

theorem rtc_roundTrip_twice :
    (rtcGet ds3231Port 1 (rtcRun ds3231Port 1 ⟨fun _ => 0xFF, 0⟩ setTwice)).1
      = ⟨⟨29, 2, 24, 5⟩, ⟨0, 15, 11, timeFormat12HrsPm⟩⟩ :=
  (rtc_roundTrip ds3231Port 1 Ds3231.registers (ds3231Port_registers 1) ⟨fun _ => 0xFF, 0⟩ setTwice
    setTwice_inRange).1

end FwCore.Proof
