import FwCore.Interface

/-!
# The real-time clock (`bsp/rtc.c`)

A DS3231 keeps the time in seven registers, two decimal digits in each. The driver
reaches them one at a time: a write is one message of three bytes, a read is the
register's address, the chip's own, and then one byte back. Nothing else is known of
the chip here; what is behind the port is the state `σ` of `Comm`.

The hours register has two more bits. Bit 6 chooses the format, and bit 5 is then AM or
PM; in the 24-hour format it is a digit.
-/

namespace FwCore

/-- `DS3231_I2C_ADDRESS`. -/
def ds3231I2cAddress : UInt8 := 0x68

/-- `DS3231_ADDR_SEC`. -/
def ds3231AddrSec : UInt8 := 0x00

/-- `DS3231_ADDR_MIN`. -/
def ds3231AddrMin : UInt8 := 0x01

/-- `DS3231_ADDR_HRS`. -/
def ds3231AddrHrs : UInt8 := 0x02

/-- `DS3231_ADDR_DAY`. -/
def ds3231AddrDay : UInt8 := 0x03

/-- `DS3231_ADDR_DATE`. -/
def ds3231AddrDate : UInt8 := 0x04

/-- `DS3231_ADDR_MONTH`. -/
def ds3231AddrMonth : UInt8 := 0x05

/-- `DS3231_ADDR_YEAR`. -/
def ds3231AddrYear : UInt8 := 0x06

/-- `TIME_FORMAT_12HRS_AM`. -/
def timeFormat12HrsAm : UInt8 := 0

/-- `TIME_FORMAT_12HRS_PM`. -/
def timeFormat12HrsPm : UInt8 := 1

/-- `TIME_FORMAT_24HRS`. -/
def timeFormat24Hrs : UInt8 := 2

/-- `RTC_date_t`. The day of the week is an `enum` from `SUNDAY`, 1, to `SATURDAY`, 7. -/
structure RtcDate where
  date : UInt8
  month : UInt8
  year : UInt8
  day : UInt32
deriving DecidableEq, Repr

/-- `RTC_time_t`. -/
structure RtcTime where
  seconds : UInt8
  minutes : UInt8
  hours : UInt8
  timeFormat : UInt8
deriving DecidableEq, Repr

/-- `RTC_DateTime_t`. -/
structure RtcDateTime where
  date : RtcDate
  time : RtcTime
deriving DecidableEq, Repr

/-! ## Two digits in a byte -/

/-- `binary_to_bcd`. -/
def binaryToBcd (value : UInt8) : UInt8 :=
  if value ≥ 10 then
    let m := value / 10
    let n := value % 10
    (m <<< 4) ||| n
  else value

/-- `bcd_to_binary`. -/
def bcdToBinary (value : UInt8) : UInt8 :=
  let m := (value >>> 4) * 10
  let n := value &&& 0x0F
  m + n

/-- `1 << n`. -/
def bit (n : UInt8) : UInt8 := 1 <<< n

section

variable {σ : Type} (comm : Comm σ) (rtcCommId : UInt8)

/-! ## One register -/

/-- `rtc_write`. -/
def rtcWrite (value regAddr : UInt8) (s : σ) : σ :=
  comm.send rtcCommId [ds3231I2cAddress, regAddr, value] s

/-- `rtc_read`. -/
def rtcRead (regAddr : UInt8) (s : σ) : UInt8 × σ :=
  let s := comm.send rtcCommId [ds3231I2cAddress, regAddr] s
  let s := comm.send rtcCommId [ds3231I2cAddress] s
  comm.receive rtcCommId s

/-! ## The time -/

/-- `rtc_set_current_time`. -/
def rtcSetCurrentTime (rtcTime : RtcTime) (s : σ) : σ :=
  let seconds := binaryToBcd rtcTime.seconds
  let seconds := seconds &&& ~~~(bit 7)
  let s := rtcWrite comm rtcCommId seconds ds3231AddrSec s
  let s := rtcWrite comm rtcCommId (binaryToBcd rtcTime.minutes) ds3231AddrMin s
  let hrs := binaryToBcd rtcTime.hours
  let hrs :=
    if rtcTime.timeFormat = timeFormat24Hrs then hrs &&& ~~~(bit 6)
    else
      let hrs := hrs ||| bit 6
      if rtcTime.timeFormat = timeFormat12HrsPm then hrs ||| bit 5 else hrs &&& ~~~(bit 5)
  rtcWrite comm rtcCommId hrs ds3231AddrHrs s

/-- `rtc_get_current_time`. -/
def rtcGetCurrentTime (s : σ) : RtcTime × σ :=
  let (seconds, s) := rtcRead comm rtcCommId ds3231AddrSec s
  let seconds := seconds &&& ~~~(bit 7)
  let (minutes, s) := rtcRead comm rtcCommId ds3231AddrMin s
  let (hrs, s) := rtcRead comm rtcCommId ds3231AddrHrs s
  let (timeFormat, hrs) :=
    if hrs &&& bit 6 ≠ 0 then
      -- `!((hrs & (1 << 5)) == 0)` is 0 or 1, and so is AM or PM
      ((if hrs &&& bit 5 = 0 then (0 : UInt8) else 1), hrs &&& ~~~((0x3 : UInt8) <<< 5))
    else (timeFormat24Hrs, hrs)
  (⟨bcdToBinary seconds, bcdToBinary minutes, bcdToBinary hrs, timeFormat⟩, s)

/-! ## The date -/

/-- `rtc_set_current_date`. -/
def rtcSetCurrentDate (rtcDate : RtcDate) (s : σ) : σ :=
  let s := rtcWrite comm rtcCommId (binaryToBcd rtcDate.date) ds3231AddrDate s
  let s := rtcWrite comm rtcCommId (binaryToBcd rtcDate.month) ds3231AddrMonth s
  let s := rtcWrite comm rtcCommId (binaryToBcd rtcDate.year) ds3231AddrYear s
  rtcWrite comm rtcCommId (binaryToBcd rtcDate.day.toUInt8) ds3231AddrDay s

/-- `rtc_get_current_date`. -/
def rtcGetCurrentDate (s : σ) : RtcDate × σ :=
  let (day, s) := rtcRead comm rtcCommId ds3231AddrDay s
  let (date, s) := rtcRead comm rtcCommId ds3231AddrDate s
  let (month, s) := rtcRead comm rtcCommId ds3231AddrMonth s
  let (year, s) := rtcRead comm rtcCommId ds3231AddrYear s
  (⟨bcdToBinary date, bcdToBinary month, bcdToBinary year, (bcdToBinary day).toUInt32⟩, s)

/-! ## Both -/

/-- `rtc_set`. -/
def rtcSet (rtcDateTime : RtcDateTime) (s : σ) : σ :=
  let s := rtcSetCurrentTime comm rtcCommId rtcDateTime.time s
  rtcSetCurrentDate comm rtcCommId rtcDateTime.date s

/-- `rtc_get`. -/
def rtcGet (s : σ) : RtcDateTime × σ :=
  let (time, s) := rtcGetCurrentTime comm rtcCommId s
  let (date, s) := rtcGetCurrentDate comm rtcCommId s
  (⟨date, time⟩, s)

/-! ## Programs -/

/-- A call of the driver. -/
inductive RtcOp where
  | setCurrentTime (rtcTime : RtcTime)
  | setCurrentDate (rtcDate : RtcDate)
  | set (rtcDateTime : RtcDateTime)
  | getCurrentTime
  | getCurrentDate
  | get
deriving DecidableEq, Repr

/-- One call, and what it does to what is behind the port. -/
def rtcCall (s : σ) : RtcOp → σ
  | .setCurrentTime rtcTime => rtcSetCurrentTime comm rtcCommId rtcTime s
  | .setCurrentDate rtcDate => rtcSetCurrentDate comm rtcCommId rtcDate s
  | .set rtcDateTime => rtcSet comm rtcCommId rtcDateTime s
  | .getCurrentTime => (rtcGetCurrentTime comm rtcCommId s).2
  | .getCurrentDate => (rtcGetCurrentDate comm rtcCommId s).2
  | .get => (rtcGet comm rtcCommId s).2

/-- A sequence of calls. -/
def rtcRun (s : σ) (ops : List RtcOp) : σ := ops.foldl (rtcCall comm rtcCommId) s

end

end FwCore
