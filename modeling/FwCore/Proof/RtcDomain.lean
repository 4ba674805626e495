import FwCore.Proof.RtcRoundTrip

/-!
# What the clock keeps of any value

The setters check nothing. A register has two digits, of which the upper goes to 15, so a
byte is kept modulo 160; the seconds lose the halt bit, and the hours the bits of the
format, 40 of the 24 hours and all but one bit of the lower tens in the 12-hour format. What
is kept is kept for good: set again, it is read back as it is.
-/

namespace FwCore.Proof

open FwCore

section

variable {σ : Type} {comm : Comm σ} {rtcCommId : UInt8} {reg : σ → UInt8 → UInt8}

/-! ## What is kept -/

/-- Of the hours, in a format. -/
def keptHours (timeFormat hours : UInt8) : UInt8 :=
  if timeFormat = timeFormat24Hrs then
    if hours % 80 < 40 then hours % 160 else hours % 160 - 40
  else hours % 160 / 80 * 80 + hours % 20

/-- What is no format is taken for AM. -/
def keptFormat (timeFormat : UInt8) : UInt8 :=
  if timeFormat = timeFormat24Hrs ∨ timeFormat = timeFormat12HrsPm then timeFormat
  else timeFormat12HrsAm

/-- Of a time. -/
def keptTime (t : RtcTime) : RtcTime where
  seconds := t.seconds % 80
  minutes := t.minutes % 160
  hours := keptHours t.timeFormat t.hours
  timeFormat := keptFormat t.timeFormat

/-- Of a date. -/
def keptDate (d : RtcDate) : RtcDate where
  date := d.date % 160
  month := d.month % 160
  year := d.year % 160
  day := d.day % 256 % 160

/-- Of both. -/
def kept (dt : RtcDateTime) : RtcDateTime := ⟨keptDate dt.date, keptTime dt.time⟩

/-- The hours that fit, in a format that is one. -/
def HoursFit (t : RtcTime) : Prop :=
  t.hours < 160 ∧ ((t.timeFormat = timeFormat24Hrs ∧ t.hours % 80 < 40)
    ∨ ((t.timeFormat = timeFormat12HrsAm ∨ t.timeFormat = timeFormat12HrsPm)
      ∧ t.hours % 80 < 20))

/-- A time of which nothing is lost. -/
structure TimeFits (t : RtcTime) : Prop where
  seconds : t.seconds < 80
  minutes : t.minutes < 160
  hours : HoursFit t

/-- A date of which nothing is lost. -/
structure DateFits (d : RtcDate) : Prop where
  date : d.date < 160
  month : d.month < 160
  year : d.year < 160
  day : d.day < 160

/-! ## Bytes -/

/-- What holds of every pair of digits holds of every byte. -/
theorem byte_digits {P : UInt8 → Prop}
    (hall : ∀ m n : Fin 16, P (UInt8.ofNat (16 * m.val + n.val))) (v : UInt8) : P v := by
  have hv := v.toNat_lt
  have hp := hall ⟨v.toNat / 16, by omega⟩ ⟨v.toNat % 16, Nat.mod_lt _ (by decide)⟩
  dsimp only at hp
  rw [Nat.div_add_mod, UInt8.ofNat_toNat] at hp
  exact hp

/-- **Two digits keep a byte modulo 160.** -/
theorem bcd_kept (v : UInt8) : bcdToBinary (binaryToBcd v) = v % 160 :=
  byte_digits (P := fun v => bcdToBinary (binaryToBcd v) = v % 160) (by decide) v

theorem bcd_kept_halt (v : UInt8) :
    bcdToBinary (binaryToBcd v &&& ~~~(bit 7) &&& ~~~(bit 7)) = v % 80 :=
  byte_digits (P := fun v => bcdToBinary (binaryToBcd v &&& ~~~(bit 7) &&& ~~~(bit 7)) = v % 80)
    (by decide) v

/-- What is made of the hours register. -/
def KeepsOf (timeFormat hours : UInt8) : Prop :=
  (shownHours (hoursRegister timeFormat hours)).1 = keptFormat timeFormat
    ∧ bcdToBinary (shownHours (hoursRegister timeFormat hours)).2 = keptHours timeFormat hours

instance (timeFormat hours : UInt8) : Decidable (KeepsOf timeFormat hours) :=
  inferInstanceAs (Decidable (_ ∧ _))

theorem hours_kept (timeFormat hours : UInt8) : KeepsOf timeFormat hours := by
  by_cases h24 : timeFormat = timeFormat24Hrs
  · rw [h24]
    exact byte_digits (P := KeepsOf timeFormat24Hrs) (by decide) hours
  by_cases hpm : timeFormat = timeFormat12HrsPm
  · rw [hpm]
    exact byte_digits (P := KeepsOf timeFormat12HrsPm) (by decide) hours
  · -- any other is written as AM is
    have ham := byte_digits (P := KeepsOf timeFormat12HrsAm) (by decide) hours
    have hregister : hoursRegister timeFormat hours = hoursRegister timeFormat12HrsAm hours := by
      unfold hoursRegister
      rw [if_neg h24, if_neg hpm]
      rfl
    have hformat : keptFormat timeFormat = keptFormat timeFormat12HrsAm := by
      unfold keptFormat
      rw [if_neg (not_or.mpr ⟨h24, hpm⟩)]
      rfl
    have hhours : keptHours timeFormat hours = keptHours timeFormat12HrsAm hours := by
      unfold keptHours
      rw [if_neg h24]
      rfl
    unfold KeepsOf
    rw [hregister, hformat, hhours]
    exact ham

/-- A byte is kept just if it is smaller. -/
theorem mod_eq_self_iff {v m : UInt8} (hm : 0 < m) : v % m = v ↔ v < m := by
  rw [← UInt8.toNat_inj, UInt8.toNat_mod, UInt8.lt_iff_toNat_lt]
  have hpos : 0 < m.toNat := UInt8.lt_iff_toNat_lt.mp hm
  exact ⟨fun h => h ▸ Nat.mod_lt _ hpos, Nat.mod_eq_of_lt⟩

/-- In the 24-hour format. -/
theorem hours_kept_iff (hours : UInt8) :
    keptHours timeFormat24Hrs hours = hours ↔ hours < 160 ∧ hours % 80 < 40 :=
  byte_digits (P := fun hours => keptHours timeFormat24Hrs hours = hours
    ↔ hours < 160 ∧ hours % 80 < 40) (by decide) hours

/-- In the other two. -/
theorem half_kept_iff {timeFormat : UInt8} (h : timeFormat ≠ timeFormat24Hrs) (hours : UInt8) :
    keptHours timeFormat hours = hours ↔ hours < 160 ∧ hours % 80 < 20 := by
  unfold keptHours
  rw [if_neg h]
  exact byte_digits (P := fun hours => hours % 160 / 80 * 80 + hours % 20 = hours
    ↔ hours < 160 ∧ hours % 80 < 20) (by decide) hours

theorem format_kept_iff (timeFormat : UInt8) :
    keptFormat timeFormat = timeFormat ↔ timeFormat = timeFormat24Hrs
      ∨ timeFormat = timeFormat12HrsAm ∨ timeFormat = timeFormat12HrsPm := by
  unfold keptFormat
  split
  · rename_i h
    exact iff_of_true rfl (h.imp_right Or.inr)
  · rename_i h
    obtain ⟨h24, hpm⟩ := not_or.mp h
    constructor
    · intro ham
      exact Or.inr (Or.inl ham.symm)
    · rintro (h | h | h)
      · exact absurd h h24
      · exact h.symm
      · exact absurd h hpm

/-! ## Fixed points -/

/-- **A time is kept just if it fits.** -/
theorem keptTime_iff (t : RtcTime) : keptTime t = t ↔ TimeFits t := by
  obtain ⟨seconds, minutes, hours, timeFormat⟩ := t
  have hsec : seconds % 80 = seconds ↔ seconds < 80 := mod_eq_self_iff (by decide)
  have hmin : minutes % 160 = minutes ↔ minutes < 160 := mod_eq_self_iff (by decide)
  have hfields : keptTime ⟨seconds, minutes, hours, timeFormat⟩
        = ⟨seconds, minutes, hours, timeFormat⟩
      ↔ seconds % 80 = seconds ∧ minutes % 160 = minutes ∧ keptHours timeFormat hours = hours
        ∧ keptFormat timeFormat = timeFormat := by
    rw [keptTime, RtcTime.mk.injEq]
  rw [hfields, hsec, hmin, format_kept_iff]
  constructor
  · rintro ⟨hs, hm, hh, h24 | hhalf⟩
    · subst h24
      obtain ⟨hlt, hdigit⟩ := (hours_kept_iff hours).mp hh
      exact ⟨hs, hm, hlt, Or.inl ⟨rfl, hdigit⟩⟩
    · have hne : timeFormat ≠ timeFormat24Hrs := by
        rcases hhalf with rfl | rfl
        · decide
        · decide
      obtain ⟨hlt, hdigit⟩ := (half_kept_iff hne hours).mp hh
      exact ⟨hs, hm, hlt, Or.inr ⟨hhalf, hdigit⟩⟩
  · rintro ⟨hs, hm, hlt, ⟨h24, hdigit⟩ | ⟨hhalf, hdigit⟩⟩
    · dsimp only at h24
      subst h24
      exact ⟨hs, hm, (hours_kept_iff hours).mpr ⟨hlt, hdigit⟩, Or.inl rfl⟩
    · have hne : timeFormat ≠ timeFormat24Hrs := by
        rcases hhalf with h | h
        · intro h24
          exact absurd (h.symm.trans h24) (by decide)
        · intro h24
          exact absurd (h.symm.trans h24) (by decide)
      exact ⟨hs, hm, (half_kept_iff hne hours).mpr ⟨hlt, hdigit⟩, Or.inr hhalf⟩

/-- The day of the week is a word, of which the driver takes a byte. -/
theorem day_kept_iff (day : UInt32) : day % 256 % 160 = day ↔ day < 160 := by
  rw [← UInt32.toNat_inj, UInt32.toNat_mod, UInt32.toNat_mod, UInt32.lt_iff_toNat_lt]
  show day.toNat % 256 % 160 = day.toNat ↔ day.toNat < 160
  omega

/-- **And a date.** -/
theorem keptDate_iff (d : RtcDate) : keptDate d = d ↔ DateFits d := by
  obtain ⟨date, month, year, day⟩ := d
  have hbyte : ∀ v : UInt8, v % 160 = v ↔ v < 160 := fun v => mod_eq_self_iff (by decide)
  have hfields : keptDate ⟨date, month, year, day⟩ = ⟨date, month, year, day⟩
      ↔ date % 160 = date ∧ month % 160 = month ∧ year % 160 = year ∧ day % 256 % 160 = day := by
    rw [keptDate, RtcDate.mk.injEq]
  rw [hfields, hbyte, hbyte, hbyte, day_kept_iff]
  exact ⟨fun ⟨hd, hm, hy, hw⟩ => ⟨hd, hm, hy, hw⟩, fun ⟨hd, hm, hy, hw⟩ => ⟨hd, hm, hy, hw⟩⟩

theorem byte_mod_lt (v : UInt8) {m : UInt8} (hm : 0 < m) : v % m < m := by
  rw [UInt8.lt_iff_toNat_lt, UInt8.toNat_mod]
  exact Nat.mod_lt _ (UInt8.lt_iff_toNat_lt.mp hm)

/-- **What is kept fits**, so it is kept again. -/
theorem keptTime_fits (t : RtcTime) : TimeFits (keptTime t) := by
  refine ⟨byte_mod_lt _ (by decide), byte_mod_lt _ (by decide), ?_⟩
  by_cases h24 : t.timeFormat = timeFormat24Hrs
  · have hdigit := byte_digits (P := fun hours => keptHours timeFormat24Hrs hours < 160
      ∧ keptHours timeFormat24Hrs hours % 80 < 40) (by decide) t.hours
    rw [← h24] at hdigit
    exact ⟨hdigit.1, Or.inl ⟨(if_pos (Or.inl h24)).trans h24, hdigit.2⟩⟩
  · have hdigit := byte_digits (P := fun hours => hours % 160 / 80 * 80 + hours % 20 < 160
      ∧ (hours % 160 / 80 * 80 + hours % 20) % 80 < 20) (by decide) t.hours
    have hhours : (keptTime t).hours = t.hours % 160 / 80 * 80 + t.hours % 20 := if_neg h24
    unfold HoursFit
    rw [hhours]
    refine ⟨hdigit.1, Or.inr ⟨?_, hdigit.2⟩⟩
    by_cases hpm : t.timeFormat = timeFormat12HrsPm
    · exact Or.inr ((if_pos (Or.inr hpm)).trans hpm)
    · exact Or.inl (if_neg (not_or.mpr ⟨h24, hpm⟩))

theorem keptDate_fits (d : RtcDate) : DateFits (keptDate d) := by
  refine ⟨byte_mod_lt _ (by decide), byte_mod_lt _ (by decide), byte_mod_lt _ (by decide), ?_⟩
  rw [UInt32.lt_iff_toNat_lt]
  exact Nat.mod_lt _ (by decide)

theorem kept_kept (dt : RtcDateTime) : kept (kept dt) = kept dt := by
  unfold kept
  dsimp only
  rw [(keptDate_iff _).mpr (keptDate_fits _), (keptTime_iff _).mpr (keptTime_fits _)]

theorem kept_iff (dt : RtcDateTime) : kept dt = dt ↔ DateFits dt.date ∧ TimeFits dt.time := by
  obtain ⟨date, time⟩ := dt
  rw [kept, RtcDateTime.mk.injEq, keptDate_iff, keptTime_iff]

/-! ## The setters, given anything -/

section Calls

variable (h : RegisterFile comm rtcCommId reg) (s : σ)
include h

theorem rtcSetCurrentTime_kept (t : RtcTime) :
    shownTime (reg (rtcSetCurrentTime comm rtcCommId t s)) = keptTime t
      ∧ shownDate (reg (rtcSetCurrentTime comm rtcCommId t s)) = shownDate (reg s) := by
  have hregs : reg (rtcSetCurrentTime comm rtcCommId t s)
      = Function.update (Function.update (Function.update (reg s)
          ds3231AddrSec (binaryToBcd t.seconds &&& ~~~(bit 7)))
          ds3231AddrMin (binaryToBcd t.minutes))
          ds3231AddrHrs (hoursRegister t.timeFormat t.hours) := by
    unfold rtcSetCurrentTime
    dsimp only
    rw [rtcWrite_spec h, rtcWrite_spec h, rtcWrite_spec h]
    rfl
  obtain ⟨hformat, hhours⟩ := hours_kept t.timeFormat t.hours
  rw [hregs]
  constructor
  · have hset : timeOf (binaryToBcd t.seconds &&& ~~~(bit 7)) (binaryToBcd t.minutes)
        (hoursRegister t.timeFormat t.hours) = keptTime t := by
      unfold timeOf keptTime
      rw [bcd_kept_halt, bcd_kept, hformat, hhours]
    refine Eq.trans ?_ hset
    unfold shownTime
    simp [Function.update, ds3231AddrSec, ds3231AddrMin, ds3231AddrHrs]
  · unfold shownDate
    simp [Function.update, ds3231AddrSec, ds3231AddrMin, ds3231AddrHrs, ds3231AddrDay,
      ds3231AddrDate, ds3231AddrMonth, ds3231AddrYear]

theorem rtcSetCurrentDate_kept (d : RtcDate) :
    shownDate (reg (rtcSetCurrentDate comm rtcCommId d s)) = keptDate d
      ∧ shownTime (reg (rtcSetCurrentDate comm rtcCommId d s)) = shownTime (reg s) := by
  have hregs : reg (rtcSetCurrentDate comm rtcCommId d s)
      = Function.update (Function.update (Function.update (Function.update (reg s)
          ds3231AddrDate (binaryToBcd d.date)) ds3231AddrMonth (binaryToBcd d.month))
          ds3231AddrYear (binaryToBcd d.year)) ds3231AddrDay (binaryToBcd d.day.toUInt8) := by
    unfold rtcSetCurrentDate
    dsimp only
    rw [rtcWrite_spec h, rtcWrite_spec h, rtcWrite_spec h, rtcWrite_spec h]
  rw [hregs]
  constructor
  · have hday : (d.day.toUInt8 % 160).toUInt32 = d.day % 256 % 160 := by
      rw [← UInt32.toNat_inj, UInt8.toNat_toUInt32, UInt8.toNat_mod, UInt32.toNat_toUInt8,
        UInt32.toNat_mod, UInt32.toNat_mod]
      rfl
    have hset : dateOf (binaryToBcd d.day.toUInt8) (binaryToBcd d.date) (binaryToBcd d.month)
        (binaryToBcd d.year) = keptDate d := by
      unfold dateOf keptDate
      rw [bcd_kept, bcd_kept, bcd_kept, bcd_kept, hday]
    refine Eq.trans ?_ hset
    unfold shownDate
    simp [Function.update, ds3231AddrDay, ds3231AddrDate, ds3231AddrMonth, ds3231AddrYear]
  · unfold shownTime
    simp [Function.update, ds3231AddrSec, ds3231AddrMin, ds3231AddrHrs, ds3231AddrDay,
      ds3231AddrDate, ds3231AddrMonth, ds3231AddrYear]

theorem rtcSet_kept (dt : RtcDateTime) : shown (reg (rtcSet comm rtcCommId dt s)) = kept dt := by
  obtain ⟨htime, _⟩ := rtcSetCurrentTime_kept h s dt.time
  obtain ⟨hdate, hsame⟩ :=
    rtcSetCurrentDate_kept h (rtcSetCurrentTime comm rtcCommId dt.time s) dt.date
  exact congrArg₂ RtcDateTime.mk hdate (hsame.trans htime)

end Calls

/-! ## Runs -/

/-- What a call, given anything, makes of what the clock shows. -/
def rtcShowsAfter (dt : RtcDateTime) : RtcOp → RtcDateTime
  | .setCurrentTime rtcTime => { dt with time := keptTime rtcTime }
  | .setCurrentDate rtcDate => { dt with date := keptDate rtcDate }
  | .set rtcDateTime => kept rtcDateTime
  | .getCurrentTime | .getCurrentDate | .get => dt

theorem rtcCall_kept (h : RegisterFile comm rtcCommId reg) (s : σ) (op : RtcOp) :
    shown (reg (rtcCall comm rtcCommId s op)) = rtcShowsAfter (shown (reg s)) op := by
  cases op with
  | setCurrentTime rtcTime =>
      obtain ⟨htime, hdate⟩ := rtcSetCurrentTime_kept h s rtcTime
      exact congrArg₂ RtcDateTime.mk hdate htime
  | setCurrentDate rtcDate =>
      obtain ⟨hdate, htime⟩ := rtcSetCurrentDate_kept h s rtcDate
      exact congrArg₂ RtcDateTime.mk hdate htime
  | set rtcDateTime => exact rtcSet_kept h s rtcDateTime
  | getCurrentTime => exact congrArg shown (rtcGetCurrentTime_spec h s).2
  | getCurrentDate => exact congrArg shown (rtcGetCurrentDate_spec h s).2
  | get => exact congrArg shown (rtcGet_spec h s).2

theorem rtcRun_kept (h : RegisterFile comm rtcCommId reg) (ops : List RtcOp) (s : σ) :
    shown (reg (rtcRun comm rtcCommId s ops)) = ops.foldl rtcShowsAfter (shown (reg s)) := by
  induction ops generalizing s with
  | nil => rfl
  | cons op ops ih =>
      have hrest := ih (rtcCall comm rtcCommId s op)
      rw [rtcCall_kept h s op] at hrest
      exact hrest

/--
**What the clock keeps of any value.**

For every chip that is a register file, whatever its registers hold, and every sequence of
calls, given anything: `rtc_get` returns what is kept of the time and of the date set last.
A date and time set after them is read back just if every field fits, which is more than the
calendar has: seconds below 80; minutes, date, month, year and day below 160; hours below 160
of which, modulo 80, the 24-hour format keeps those below 40 and the other two those below
20. And what was read back, set once more, is read back again.
-/
theorem rtc_keeps (comm : Comm σ) (rtcCommId : UInt8) (reg : σ → UInt8 → UInt8)
    (h : RegisterFile comm rtcCommId reg) (s : σ) (ops : List RtcOp) (dt : RtcDateTime) :
    let before := (rtcGet comm rtcCommId s).1
    let after := rtcRun comm rtcCommId s ops
    let afterSet := rtcSet comm rtcCommId dt after
    let back := (rtcGet comm rtcCommId afterSet).1
    (rtcGet comm rtcCommId after).1 = ops.foldl rtcShowsAfter before
      ∧ (back = dt ↔ DateFits dt.date ∧ TimeFits dt.time)
      ∧ (rtcGet comm rtcCommId (rtcSet comm rtcCommId back afterSet)).1 = back := by
  intro before after afterSet back
  have hget : ∀ s, (rtcGet comm rtcCommId s).1 = shown (reg s) := fun s => (rtcGet_spec h s).1
  have hback : back = kept dt := (hget afterSet).trans (rtcSet_kept h after dt)
  refine ⟨?_, ?_, ?_⟩
  · have hbefore : before = shown (reg s) := hget s
    rw [hget, hbefore]
    exact rtcRun_kept h ops s
  · rw [hback]
    exact kept_iff dt
  · rw [hget, rtcSet_kept h, hback]
    exact kept_kept dt

end

/-- A leap second is kept; the hour of the second setting is no hour of a half. -/
theorem rtc_keeps_leap :
    let after := rtcRun ds3231Port 1 ⟨fun _ => 0xFF, 0⟩
      [.set ⟨⟨31, 12, 16, 7⟩, ⟨60, 59, 23, timeFormat24Hrs⟩⟩,
        .setCurrentTime ⟨60, 59, 23, timeFormat12HrsPm⟩]
    (rtcGet ds3231Port 1 after).1 = ⟨⟨31, 12, 16, 7⟩, ⟨60, 59, 3, timeFormat12HrsPm⟩⟩ :=
  (rtc_keeps ds3231Port 1 Ds3231.registers (ds3231Port_registers 1) ⟨fun _ => 0xFF, 0⟩
    [.set ⟨⟨31, 12, 16, 7⟩, ⟨60, 59, 23, timeFormat24Hrs⟩⟩,
      .setCurrentTime ⟨60, 59, 23, timeFormat12HrsPm⟩]
    ⟨⟨31, 12, 16, 7⟩, ⟨60, 59, 23, timeFormat24Hrs⟩⟩).1

end FwCore.Proof
