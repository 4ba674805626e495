import FwCore.Bsp.LedRgb
import Mathlib.Data.List.Induction

/-!
# The colour an RGB LED records and the colour it shows

A control call that gets through writes three pins and then records the colour, so
afterwards the two agree. A call that fails records nothing, but it has already made
the writes before the one that failed, and nothing takes them back. It does no harm
exactly if those writes changed no pin; `PartialWrite` is the other case.
-/

namespace FwCore.Proof

open FwCore

/-! ## Colours and pins -/

/-- Whether red, green and blue are lit. -/
def channels : LedRgbColor → Bool × Bool × Bool
  | .off => (false, false, false)
  | .red => (true, false, false)
  | .green => (false, true, false)
  | .blue => (false, false, true)
  | .yellow => (true, true, false)
  | .cyan => (false, true, true)
  | .magenta => (true, false, true)
  | .white => (true, true, true)

/-- The colour with the given channels lit. -/
def colorOf : Bool → Bool → Bool → LedRgbColor
  | false, false, false => .off
  | true, false, false => .red
  | false, true, false => .green
  | false, false, true => .blue
  | true, true, false => .yellow
  | false, true, true => .cyan
  | true, false, true => .magenta
  | true, true, true => .white

example : ∀ r g b, channels (colorOf r g b) = (r, g, b) := by decide

/-- The three pins, decoded through the inverted flag, are `color`. -/
structure Shows (led : LedRgb) (pins : Pins) (color : LedRgbColor) : Prop where
  r : pins led.pinR = led.level (channels color).1
  g : pins led.pinG = led.level (channels color).2.1
  b : pins led.pinB = led.level (channels color).2.2

/-- The colour a call is to give an LED. -/
def target (led : LedRgb) : RgbOp → LedRgbColor
  | .set color => color
  | .setRaw r g b => colorOf r g b
  | .off => .off
  | .toggle color => if led.currentColor = .off then color else .off

/-- A call fails after a write that changed a pin. -/
def PartialWrite (led : LedRgb) (pins : Pins) (w : RgbWrites) (color : LedRgbColor) : Prop :=
  (w.r = .ok ∧ w.g ≠ .ok ∧ pins led.pinR ≠ led.level (channels color).1)
    ∨ (w.r = .ok ∧ w.g = .ok ∧ w.b ≠ .ok
      ∧ (pins led.pinR ≠ led.level (channels color).1
        ∨ pins led.pinG ≠ led.level (channels color).2.1))

/-! ## One call -/

theorem ledRgbSet_eq (led : LedRgb) (pins : Pins) (w : RgbWrites) (color : LedRgbColor) :
    ledRgbSet led pins w color
      = let s := ledRgbWrite led pins w (channels color).1 (channels color).2.1 (channels color).2.2
        if s.1 ≠ .ok then ⟨s.1, led, s.2⟩ else ⟨.ok, { led with currentColor := color }, s.2⟩ := by
  cases color <;> rfl

/-- **`led_rgb_set` and `led_rgb_setRaw` are two spellings of one function.** -/
theorem ledRgbSetRaw_eq (led : LedRgb) (pins : Pins) (w : RgbWrites) (r g b : Bool) :
    ledRgbSetRaw led pins w r g b = ledRgbSet led pins w (colorOf r g b) := by
  cases r <;> cases g <;> cases b <;> rfl

theorem ledRgbCall_eq (led : LedRgb) (pins : Pins) (call : RgbCall) :
    ledRgbCall led pins call = ledRgbSet led pins call.writes (target led call.op) := by
  unfold ledRgbCall
  cases call.op with
  | set color => rfl
  | setRaw r g b => exact ledRgbSetRaw_eq led pins call.writes r g b
  | off => rfl
  | toggle color =>
      unfold ledRgbToggle target
      dsimp only
      split
      · rfl
      · rfl

section Write

variable {led : LedRgb} {pins : Pins} {w : RgbWrites}

theorem ioWrite_failed {status : IoStatus} (pin value : UInt8) (h : status ≠ .ok) :
    ioWrite pins status pin value = (status, pins) := by
  rw [ioWrite, if_neg h]

theorem ioWrite_done (pin value : UInt8) :
    ioWrite pins .ok pin value = (.ok, fun p => if p = pin then value else pins p) := rfl

/-- A write that goes through leaves the pins alone just if the level was there already. -/
theorem written_eq_self (pin value : UInt8) :
    (fun p => if p = pin then value else pins p) = pins ↔ pins pin = value := by
  constructor
  · intro heq
    have hat := congrFun heq pin
    rw [if_pos rfl] at hat
    exact hat.symm
  · intro hval
    funext p
    by_cases hp : p = pin
    · rw [if_pos hp, hp, hval]
    · rw [if_neg hp]

/-- A call whose writes get through. -/
theorem ledRgbSet_done (pins : Pins) (color : LedRgbColor) (hr : w.r = .ok) (hg : w.g = .ok)
    (hb : w.b = .ok) (hrg : led.pinR ≠ led.pinG) (hrb : led.pinR ≠ led.pinB)
    (hgb : led.pinG ≠ led.pinB) :
    (ledRgbSet led pins w color).status = .ok
      ∧ (ledRgbSet led pins w color).led = { led with currentColor := color }
      ∧ Shows led (ledRgbSet led pins w color).pins color := by
  rw [ledRgbSet_eq]
  unfold ledRgbWrite
  simp only [hr, hg, hb, ioWrite_done, ne_eq, not_true_eq_false, if_false]
  refine ⟨trivial, trivial, ?_, ?_, ?_⟩
  · rw [if_neg hrb, if_neg hrg, if_pos rfl]
  · rw [if_neg hgb, if_pos rfl]
  · rw [if_pos rfl]

/-- **A call one of whose writes fails**: it reports that, records nothing, and leaves the pins as
they were just if no write before it changed one. -/
theorem ledRgbSet_failed (color : LedRgbColor) (h : ¬(w.r = .ok ∧ w.g = .ok ∧ w.b = .ok))
    (hrg : led.pinR ≠ led.pinG) :
    (ledRgbSet led pins w color).status ≠ .ok
      ∧ (ledRgbSet led pins w color).led = led
      ∧ ((ledRgbSet led pins w color).pins = pins ↔ ¬PartialWrite led pins w color) := by
  rw [ledRgbSet_eq]
  unfold ledRgbWrite PartialWrite
  by_cases hr : w.r = .ok
  · by_cases hg : w.g = .ok
    · -- blue fails, after red and green
      have hb : w.b ≠ .ok := fun hb => h ⟨hr, hg, hb⟩
      simp only [hr, hg, ioWrite_done, ioWrite_failed _ _ hb, ne_eq, not_true_eq_false, if_false,
        hb, not_false_eq_true, if_true, true_and, false_and, false_or, not_or, not_not]
      constructor
      · intro heq
        have hatR := congrFun heq led.pinR
        have hatG := congrFun heq led.pinG
        rw [if_neg hrg, if_pos rfl] at hatR
        rw [if_pos rfl] at hatG
        exact ⟨hatR.symm, hatG.symm⟩
      · intro ⟨hatR, hatG⟩
        funext p
        by_cases hp : p = led.pinG
        · rw [if_pos hp, hp, hatG]
        · rw [if_neg hp]
          exact congrFun ((written_eq_self led.pinR _).mpr hatR) p
    · -- green fails, after red
      simp only [hr, ioWrite_done, ioWrite_failed _ _ hg, ne_eq, not_true_eq_false, if_false,
        hg, not_false_eq_true, if_true, true_and, false_and, or_false, not_not]
      exact written_eq_self led.pinR _
  · -- red fails, and nothing has been written
    simp only [ioWrite_failed _ _ hr, ne_eq, hr, not_false_eq_true, if_true, true_and, false_and,
      or_false]

/-- Other pins are not written. -/
theorem ledRgbSet_frame (color : LedRgbColor) {p : UInt8} (hr : p ≠ led.pinR) (hg : p ≠ led.pinG)
    (hb : p ≠ led.pinB) : (ledRgbSet led pins w color).pins p = pins p := by
  have hwrite : ∀ (pins : Pins) (status : IoStatus) (pin value : UInt8), p ≠ pin →
      (ioWrite pins status pin value).2 p = pins p := by
    intro pins status pin value hp
    unfold ioWrite
    dsimp only
    split
    · exact if_neg hp
    · rfl
  rw [ledRgbSet_eq]
  unfold ledRgbWrite
  dsimp only
  repeat' split
  all_goals simp only [hwrite _ _ _ _ hr, hwrite _ _ _ _ hg, hwrite _ _ _ _ hb]

end Write

/-! ## Runs -/

/-- What the calls of a run return. -/
def ledRgbStatuses (led : LedRgb) (pins : Pins) : List RgbCall → List IoStatus
  | [] => []
  | call :: calls =>
    (ledRgbCall led pins call).status
      :: ledRgbStatuses (ledRgbCall led pins call).led (ledRgbCall led pins call).pins calls

/-- What the caller of the control functions relies on. -/
structure ColorMatches (led : LedRgb) (pins : Pins) (calls : List RgbCall) : Prop where
  /-- Once a call has succeeded, the pins show what `led_rgb_getColor` returns. -/
  shown : ∀ pre, pre <+: calls → .ok ∈ ledRgbStatuses led pins pre →
    Shows (ledRgbRun led pins pre).1 (ledRgbRun led pins pre).2
      (ledRgbGetColor (ledRgbRun led pins pre).1)
  /-- From then on, a call that fails changes neither. -/
  failed : ∀ pre call post, calls = pre ++ call :: post → .ok ∈ ledRgbStatuses led pins pre →
    (ledRgbCall (ledRgbRun led pins pre).1 (ledRgbRun led pins pre).2 call).status ≠ .ok →
      (ledRgbRun led pins (pre ++ [call])).2 = (ledRgbRun led pins pre).2
        ∧ ledRgbGetColor (ledRgbRun led pins (pre ++ [call])).1
          = ledRgbGetColor (ledRgbRun led pins pre).1

/-- Once a call has succeeded, none fails after a write that changed a pin. -/
def NoPartialWrite (led : LedRgb) (pins : Pins) (calls : List RgbCall) : Prop :=
  ∀ pre call post, calls = pre ++ call :: post → .ok ∈ ledRgbStatuses led pins pre →
    ¬PartialWrite (ledRgbRun led pins pre).1 (ledRgbRun led pins pre).2 call.writes
      (target (ledRgbRun led pins pre).1 call.op)

/-- The three pins of an LED are different ones. -/
structure PinsDistinct (led : LedRgb) : Prop where
  rg : led.pinR ≠ led.pinG
  rb : led.pinR ≠ led.pinB
  gb : led.pinG ≠ led.pinB

theorem ledRgbRun_snoc (led : LedRgb) (pins : Pins) (pre : List RgbCall) (call : RgbCall) :
    ledRgbRun led pins (pre ++ [call])
      = ((ledRgbCall (ledRgbRun led pins pre).1 (ledRgbRun led pins pre).2 call).led,
          (ledRgbCall (ledRgbRun led pins pre).1 (ledRgbRun led pins pre).2 call).pins) :=
  List.foldl_append

theorem ledRgbStatuses_snoc :
    ∀ (led : LedRgb) (pins : Pins) (pre : List RgbCall) (call : RgbCall),
      ledRgbStatuses led pins (pre ++ [call])
        = ledRgbStatuses led pins pre
          ++ [(ledRgbCall (ledRgbRun led pins pre).1 (ledRgbRun led pins pre).2 call).status]
  | _, _, [], _ => rfl
  | led, pins, first :: pre, call => by
      have ih := ledRgbStatuses_snoc (ledRgbCall led pins first).led
        (ledRgbCall led pins first).pins pre call
      rw [List.cons_append, ledRgbStatuses, ledRgbStatuses, ih]
      rfl

/-- What a call can do: get through, or fail and record nothing. -/
theorem ledRgbCall_spec {led : LedRgb} (pins : Pins) (call : RgbCall) (hd : PinsDistinct led) :
    ((ledRgbCall led pins call).status = .ok
        ∧ (ledRgbCall led pins call).led = { led with currentColor := target led call.op }
        ∧ Shows led (ledRgbCall led pins call).pins (target led call.op)
        ∧ ¬PartialWrite led pins call.writes (target led call.op))
      ∨ ((ledRgbCall led pins call).status ≠ .ok ∧ (ledRgbCall led pins call).led = led
        ∧ ((ledRgbCall led pins call).pins = pins
          ↔ ¬PartialWrite led pins call.writes (target led call.op))) := by
  rw [ledRgbCall_eq]
  by_cases h : call.writes.r = .ok ∧ call.writes.g = .ok ∧ call.writes.b = .ok
  · obtain ⟨hr, hg, hb⟩ := h
    obtain ⟨hst, hled, hshows⟩ := ledRgbSet_done pins (target led call.op) hr hg hb
      hd.rg hd.rb hd.gb
    refine Or.inl ⟨hst, hled, hshows, fun hp => ?_⟩
    rcases hp with ⟨_, hng, _⟩ | ⟨_, _, hnb, _⟩
    · exact hng hg
    · exact hnb hb
  · exact Or.inr (ledRgbSet_failed (target led call.op) h hd.rg)

/-- Control calls never change the pins' numbers or the inverted flag. -/
theorem ledRgbRun_pinsDistinct {led : LedRgb} (pins : Pins) (hd : PinsDistinct led)
    (calls : List RgbCall) : PinsDistinct (ledRgbRun led pins calls).1 := by
  induction calls using List.reverseRecOn with
  | nil => exact hd
  | append_singleton pre call ih =>
      rw [ledRgbRun_snoc]
      rcases ledRgbCall_spec (ledRgbRun led pins pre).2 call ih with ⟨_, hled, _⟩ | ⟨_, hled, _⟩
      · rw [hled]
        exact ⟨ih.rg, ih.rb, ih.gb⟩
      · rw [hled]
        exact ih

/--
**The recorded colour always matches the pins exactly when no call fails after changing one.**

For any LED with three distinct pins, inverted or not, over any run of control calls from any
levels, whatever the writes return.
-/
theorem ledRgb_colorMatches_iff (led : LedRgb) (pins : Pins) (calls : List RgbCall)
    (hd : PinsDistinct led) : ColorMatches led pins calls ↔ NoPartialWrite led pins calls := by
  constructor
  · intro hm pre call post hsplit hok
    have hpre : pre <+: calls := ⟨call :: post, hsplit.symm⟩
    have hsnoc : pre ++ [call] <+: calls := ⟨post, by rw [hsplit]; simp⟩
    have hok' : .ok ∈ ledRgbStatuses led pins (pre ++ [call]) := by
      rw [ledRgbStatuses_snoc]
      exact List.mem_append_left _ hok
    have hbefore := hm.shown pre hpre hok
    have hafter := hm.shown (pre ++ [call]) hsnoc hok'
    rw [ledRgbRun_snoc] at hafter
    rcases ledRgbCall_spec (ledRgbRun led pins pre).2 call (ledRgbRun_pinsDistinct pins hd pre)
      with ⟨_, _, _, hno⟩ | ⟨_, hled, hpins⟩
    · exact hno
    · -- the colour is the one before, so the three pins are as before
      rw [hled] at hafter
      dsimp only at hafter
      refine hpins.mp ?_
      funext p
      by_cases hpr : p = (ledRgbRun led pins pre).1.pinR
      · rw [hpr, hafter.r, hbefore.r]
      · by_cases hpg : p = (ledRgbRun led pins pre).1.pinG
        · rw [hpg, hafter.g, hbefore.g]
        · by_cases hpb : p = (ledRgbRun led pins pre).1.pinB
          · rw [hpb, hafter.b, hbefore.b]
          · rw [ledRgbCall_eq]
            exact ledRgbSet_frame _ hpr hpg hpb
  · intro hno
    -- a call that fails leaves LED and pins as they were
    have hfailed : ∀ pre call post, calls = pre ++ call :: post →
        .ok ∈ ledRgbStatuses led pins pre →
        (ledRgbCall (ledRgbRun led pins pre).1 (ledRgbRun led pins pre).2 call).status ≠ .ok →
          ledRgbRun led pins (pre ++ [call]) = ledRgbRun led pins pre := by
      intro pre call post hsplit hok hst
      rw [ledRgbRun_snoc]
      rcases ledRgbCall_spec (ledRgbRun led pins pre).2 call (ledRgbRun_pinsDistinct pins hd pre)
        with ⟨hst', _⟩ | ⟨_, hled, hpins⟩
      · exact absurd hst' hst
      · rw [hled, hpins.mpr (hno pre call post hsplit hok)]
    refine ⟨fun pre => ?_, fun pre call post hsplit hok hst => ?_⟩
    · induction pre using List.reverseRecOn with
      | nil => exact fun _ hok => absurd hok (by simp [ledRgbStatuses])
      | append_singleton pre call ih =>
          intro ⟨post, hpost⟩ hok
          rw [List.append_assoc, List.singleton_append] at hpost
          rw [ledRgbStatuses_snoc, List.mem_append, List.mem_singleton] at hok
          by_cases hst :
              (ledRgbCall (ledRgbRun led pins pre).1 (ledRgbRun led pins pre).2 call).status = .ok
          · -- it gets through: the pins show its colour, which is the one recorded
            rcases ledRgbCall_spec (ledRgbRun led pins pre).2 call
              (ledRgbRun_pinsDistinct pins hd pre) with ⟨_, hled, hshows, _⟩ | ⟨hst', _⟩
            · rw [ledRgbRun_snoc, hled]
              exact ⟨hshows.r, hshows.g, hshows.b⟩
            · exact absurd hst hst'
          · have hokpre := hok.resolve_right (fun h => hst h.symm)
            rw [hfailed pre call post hpost.symm hokpre hst]
            exact ih ⟨call :: post, hpost⟩ hokpre
    · rw [hfailed pre call post hsplit hok hst]
      exact ⟨rfl, rfl⟩

/-- Blue, then red with the green pin out of order. -/
def greenStuck : List RgbCall :=
  [⟨.set .blue, ⟨.ok, .ok, .ok⟩⟩, ⟨.set .red, ⟨.ok, .errHwFault, .ok⟩⟩]

/-- The LED now shows magenta and says blue. -/
theorem greenStuck_mismatch :
    ¬ColorMatches (.created 1 2 3) (fun _ => ioPinLow) greenStuck := by
  intro h
  have hshown := h.shown greenStuck List.prefix_rfl (by decide)
  exact absurd hshown.r (by decide)

/-- An inverted LED, toggled on and off, with a write that fails before anything is written. -/
def toggledTwice : List RgbCall :=
  [⟨.toggle .cyan, ⟨.ok, .ok, .ok⟩⟩, ⟨.toggle .cyan, ⟨.errTimeout, .ok, .ok⟩⟩,
    ⟨.toggle .cyan, ⟨.ok, .ok, .ok⟩⟩]

/-- No pin was changed by the call that failed, and so the colour is right throughout. -/
theorem toggledTwice_matches :
    PinsDistinct (ledRgbInvertLogic (.created 1 2 3))
      ∧ NoPartialWrite (ledRgbInvertLogic (.created 1 2 3)) (fun _ => ioPinLow) toggledTwice
      ∧ ColorMatches (ledRgbInvertLogic (.created 1 2 3)) (fun _ => ioPinLow) toggledTwice := by
  have hd : PinsDistinct (ledRgbInvertLogic (.created 1 2 3)) :=
    ⟨by decide, by decide, by decide⟩
  have hwrites : ∀ call ∈ toggledTwice, call.writes.r = .ok →
      call.writes.g = .ok ∧ call.writes.b = .ok := by decide
  have hno : NoPartialWrite (ledRgbInvertLogic (.created 1 2 3)) (fun _ => ioPinLow)
      toggledTwice := by
    intro pre call post hcalls _ hpartial
    have hmem : call ∈ toggledTwice := by rw [hcalls]; simp
    rcases hpartial with ⟨hr, hg, _⟩ | ⟨hr, _, hb, _⟩
    · exact hg (hwrites call hmem hr).1
    · exact hb (hwrites call hmem hr).2
  exact ⟨hd, hno, (ledRgb_colorMatches_iff _ _ _ hd).mpr hno⟩

end FwCore.Proof
