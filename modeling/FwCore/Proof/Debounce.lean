import FwCore.Bsp.Button

/-!
# Debouncing is a filter on the sample sequence

`button_update` keeps five states and two timers; what it computes can be said
without either. The debounced level flips at an update when the sample differs
from it, has differed since some earlier update `j`, and the clock has moved on by
the debounce window since `j`. The hold is reported once per press, at the first
update that finds the pin active twice in a row with the hold time gone by.

`Tracks` is the invariant that ties the two together: it reads each state and
each timer as a statement about the samples seen so far. One update is shown to
preserve it and, in the same case analysis, to do what the filter says.
-/

namespace FwCore.Proof

open FwCore

section Runs

variable (b : Button) (pin : Nat → IoRead) (t : Nat → UInt64)

/-- The button after `k` updates; update `k` reads `pin k` and sees the clock at `t k`. -/
def buttonAfter : Nat → Button
  | 0 => b
  | k + 1 => buttonUpdate (buttonAfter k) ⟨pin k, t k, t k⟩

/-- Sample `k`, as the state machine sees it. -/
def sample (k : Nat) : Bool := readPinActive b (pin k)

/-- The debounced level before update `k`. -/
def level (k : Nat) : Bool := buttonIsPressed (buttonAfter b pin t k)

/-- Update `k` stores the event `ev`. -/
def Emits (k : Nat) (ev : ButtonEvent) : Prop :=
  (buttonAfter b pin t (k + 1)).stored = (buttonAfter b pin t k).stored ++ [ev]

/-- The maximal run of samples ending at `k` that differ from `lvl` began at `j`. -/
structure RunFrom (lvl : Bool) (j k : Nat) : Prop where
  /-- Every sample from `j` to `k` differs. -/
  differs : ∀ i, j ≤ i → i ≤ k → sample b pin i ≠ lvl
  /-- The sample before `j`, if there is one, does not. -/
  maximal : ∀ i, i + 1 = j → sample b pin i = lvl

/-- The level flips to pressed at update `p`. -/
def PressFlip (p : Nat) : Prop := level b pin t p = false ∧ level b pin t (p + 1) = true

/-- The press that flipped the level at `p` has not been released before update `k`. -/
structure PressedSince (p k : Nat) : Prop where
  before : p < k
  flip : PressFlip b pin t p
  lasts : ∀ i, p < i → i ≤ k → level b pin t i = true

/-- Update `k` finds the pin active twice in a row and the hold time since `p` gone by. -/
structure HoldDue (p k : Nat) : Prop where
  previous : ∀ i, i + 1 = k → sample b pin i = true
  active : sample b pin k = true
  enabled : 0 < b.holdTimeMs.toNat
  elapsed : (t p).toNat + b.holdTimeMs.toNat ≤ (t k).toNat

/-- The hold of the press at `p` came due at an update before `k`. -/
def HoldDone (p k : Nat) : Prop := ∃ k', p < k' ∧ k' < k ∧ HoldDue b pin t p k'

end Runs

variable {b : Button} {pin : Nat → IoRead} {t : Nat → UInt64}

/-- The configuration is the one the run started with. -/
theorem buttonAfter_config (k : Nat) :
    (buttonAfter b pin t k).inverted = b.inverted
      ∧ (buttonAfter b pin t k).debounceMs = b.debounceMs
      ∧ (buttonAfter b pin t k).holdTimeMs = b.holdTimeMs := by
  induction k with
  | zero => exact ⟨rfl, rfl, rfl⟩
  | succ k ih =>
      obtain ⟨h1, h2, h3⟩ := update_config (buttonAfter b pin t k) ⟨pin k, t k, t k⟩
      exact ⟨h1.trans ih.1, h2.trans ih.2.1, h3.trans ih.2.2⟩

theorem readPin_after (k : Nat) :
    readPinActive (buttonAfter b pin t k) (pin k) = sample b pin k := by
  rw [sample, readPinActive, readPinActive, (buttonAfter_config k).1]

/-- A press already under way at `k` is one press: its flip is determined. -/
theorem PressedSince.unique {p p' k : Nat} (h : PressedSince b pin t p k)
    (h' : PressedSince b pin t p' k) : p = p' := by
  rcases Nat.lt_trichotomy p p' with hlt | heq | hgt
  · have := h.lasts p' hlt (Nat.le_of_lt h'.before)
    rw [h'.flip.1] at this
    exact absurd this (by simp)
  · exact heq
  · have := h'.lasts p hgt (Nat.le_of_lt h.before)
    rw [h.flip.1] at this
    exact absurd this (by simp)

/-! ## The invariant -/

/-- The hold timer during a press: armed for the hold, until the hold has been reported. -/
def HoldTimer (b : Button) (pin : Nat → IoRead) (t : Nat → UInt64) (p k : Nat)
    (timer : SimpleTimer) : Prop :=
  0 < b.holdTimeMs.toNat →
    (HoldDone b pin t p k ∧ timer.hasElapsed = true)
      ∨ (¬HoldDone b pin t p k ∧ timer.Armed ((t p).toNat + b.holdTimeMs.toNat))

/-- What each state means before update `k`. -/
inductive Tracks (b : Button) (pin : Nat → IoRead) (t : Nat → UInt64) (k : Nat) : Prop where
  /-- Released, and the last sample was inactive. -/
  | idle (hs : (buttonAfter b pin t k).state = .idle)
      (hl : level b pin t k = false)
      (hlast : ∀ i, i + 1 = k → sample b pin i = false)
  /-- Released, and the pin has been active since `j`. -/
  | debounce (j : Nat) (hs : (buttonAfter b pin t k).state = .debounce)
      (hl : level b pin t k = false) (hj : j < k)
      (hrun : ∀ i, j ≤ i → i < k → sample b pin i = true)
      (hmax : ∀ i, i + 1 = j → sample b pin i = false)
      (htm : (buttonAfter b pin t k).debounceTimer.Armed ((t j).toNat + b.debounceMs.toNat))
  /-- Pressed since `p`, and the last sample was active. -/
  | pressed (p : Nat) (hs : (buttonAfter b pin t k).state = .pressed)
      (hp : PressedSince b pin t p k)
      (hlast : ∀ i, i + 1 = k → sample b pin i = true)
      (hh : HoldTimer b pin t p k (buttonAfter b pin t k).holdTimer)
  /-- Pressed since `p`, the hold reported, and the last sample was active. -/
  | held (p : Nat) (hs : (buttonAfter b pin t k).state = .held)
      (hp : PressedSince b pin t p k)
      (hlast : ∀ i, i + 1 = k → sample b pin i = true)
      (hd : HoldDone b pin t p k)
      (hh : HoldTimer b pin t p k (buttonAfter b pin t k).holdTimer)
  /-- Pressed since `p`, and the pin has been inactive since `j`. -/
  | releaseDb (p j : Nat) (hs : (buttonAfter b pin t k).state = .releaseDb)
      (hp : PressedSince b pin t p k) (hj : j < k)
      (hrun : ∀ i, j ≤ i → i < k → sample b pin i = false)
      (hmax : ∀ i, i + 1 = j → sample b pin i = true)
      (htm : (buttonAfter b pin t k).debounceTimer.Armed ((t j).toNat + b.debounceMs.toNat))
      (hh : HoldTimer b pin t p k (buttonAfter b pin t k).holdTimer)

/-! ## What one update owes the filter -/

/-- What update `k` does, in terms of the samples. -/
structure Filters (b : Button) (pin : Nat → IoRead) (t : Nat → UInt64) (k : Nat) : Prop where
  /-- The level flips exactly when the window on a differing run has closed. -/
  flips : level b pin t (k + 1) ≠ level b pin t k ↔
    ∃ j, j < k ∧ RunFrom b pin (level b pin t k) j k
      ∧ (t j).toNat + b.debounceMs.toNat ≤ (t k).toNat
  /-- `PRESSED` marks the flips to pressed. -/
  presses : Emits b pin t k .pressed ↔ PressFlip b pin t k
  /-- `RELEASED` marks the flips to released. -/
  releases : Emits b pin t k .released ↔
    level b pin t k = true ∧ level b pin t (k + 1) = false
  /-- `HELD` marks the first time the hold comes due. -/
  holds : Emits b pin t k .held ↔
    ∃ p, PressedSince b pin t p k ∧ HoldDue b pin t p k ∧ ¬HoldDone b pin t p k

/-- The start of a maximal run is determined by its end. -/
theorem RunFrom.unique {lvl : Bool} {j j' k : Nat} (h : RunFrom b pin lvl j k)
    (h' : RunFrom b pin lvl j' k) (hj : j ≤ k) (hj' : j' ≤ k) : j = j' := by
  rcases Nat.lt_trichotomy j j' with hlt | heq | hgt
  · exact absurd (h'.maximal (j' - 1) (by omega)) (h.differs (j' - 1) (by omega) (by omega))
  · exact heq
  · exact absurd (h.maximal (j - 1) (by omega)) (h'.differs (j - 1) (by omega) (by omega))

/-- What the last sample was, once update `k` is over. -/
theorem last_sample {k : Nat} {v : Bool} (ha : sample b pin k = v) :
    ∀ i, i + 1 = k + 1 → sample b pin i = v := by
  intro i hi
  obtain rfl : i = k := by omega
  exact ha

/-- A run of equal samples goes on. -/
theorem run_extend {j k : Nat} {v : Bool} (hrun : ∀ i, j ≤ i → i < k → sample b pin i = v)
    (ha : sample b pin k = v) : ∀ i, j ≤ i → i < k + 1 → sample b pin i = v := by
  intro i hi hik
  rcases Nat.lt_or_ge i k with hlt | hge
  · exact hrun i hi hlt
  · obtain rfl : i = k := by omega
    exact ha

/-- A run of samples away from the level, with a sample at the level before it. -/
theorem runFrom_of_run {j k : Nat} {v lvl : Bool} (hne : v ≠ lvl)
    (hrun : ∀ i, j ≤ i → i < k + 1 → sample b pin i = v)
    (hmax : ∀ i, i + 1 = j → sample b pin i = lvl) : RunFrom b pin lvl j k where
  differs := by
    intro i hi hik
    rw [hrun i hi (by omega)]
    exact hne
  maximal := hmax

/-- No run reaches back past a sample at the level. -/
theorem no_run_of_last {lvl : Bool} {j k : Nat} (hlast : ∀ i, i + 1 = k → sample b pin i = lvl)
    (hj : j < k) : ¬RunFrom b pin lvl j k :=
  fun h => h.differs (k - 1) (by omega) (by omega) (hlast (k - 1) (by omega))

theorem no_run_of_level {lvl : Bool} {j k : Nat} (ha : sample b pin k = lvl) (hj : j < k) :
    ¬RunFrom b pin lvl j k :=
  fun h => h.differs k (Nat.le_of_lt hj) (Nat.le_refl k) ha

theorem not_pressedSince {k : Nat} (hl : level b pin t k = false) (p : Nat) :
    ¬PressedSince b pin t p k := by
  intro h
  have := h.lasts k h.before (Nat.le_refl k)
  rw [hl] at this
  exact absurd this (by simp)

theorem emits_iff {k : Nat} {ev ev' : ButtonEvent} (h : Emits b pin t k ev) :
    Emits b pin t k ev' ↔ ev' = ev := by
  unfold Emits at h ⊢
  rw [h]
  simp [eq_comm]

theorem not_emits {k : Nat} {ev : ButtonEvent}
    (h : (buttonAfter b pin t (k + 1)).stored = (buttonAfter b pin t k).stored) :
    ¬Emits b pin t k ev := by
  unfold Emits
  rw [h]
  simp

/-- An update that stores nothing and keeps the level meets the filter, if the filter is quiet. -/
theorem filters_quiet {k : Nat} (hl : level b pin t (k + 1) = level b pin t k)
    (hst : (buttonAfter b pin t (k + 1)).stored = (buttonAfter b pin t k).stored)
    (hrun : ∀ j, j < k → RunFrom b pin (level b pin t k) j k →
      (t k).toNat < (t j).toNat + b.debounceMs.toNat)
    (hhold : ∀ p, PressedSince b pin t p k → HoldDue b pin t p k → HoldDone b pin t p k) :
    Filters b pin t k where
  flips := by
    refine ⟨fun h => absurd hl h, ?_⟩
    rintro ⟨j, hj, hr, he⟩
    have := hrun j hj hr
    omega
  presses := by
    refine ⟨fun h => absurd h (not_emits hst), fun h => ?_⟩
    rw [PressFlip, hl] at h
    exact absurd (h.1.symm.trans h.2) (by simp)
  releases := by
    refine ⟨fun h => absurd h (not_emits hst), fun h => ?_⟩
    rw [hl] at h
    exact absurd (h.1.symm.trans h.2) (by simp)
  holds := by
    refine ⟨fun h => absurd h (not_emits hst), ?_⟩
    rintro ⟨p, hp, hd, hn⟩
    exact absurd (hhold p hp hd) hn

/-! ## The hold timer across an update -/

theorem holdDone_succ {p k : Nat} :
    HoldDone b pin t p (k + 1) ↔ HoldDone b pin t p k ∨ (p < k ∧ HoldDue b pin t p k) := by
  constructor
  · rintro ⟨k', h1, h2, hd⟩
    rcases Nat.lt_or_ge k' k with hlt | hge
    · exact Or.inl ⟨k', h1, hlt, hd⟩
    · obtain rfl : k' = k := by omega
      exact Or.inr ⟨h1, hd⟩
  · rintro (⟨k', h1, h2, hd⟩ | ⟨h1, hd⟩)
    · exact ⟨k', h1, by omega, hd⟩
    · exact ⟨k, h1, by omega, hd⟩

/-- The hold timer is untouched by an update that does not find the hold due. -/
theorem HoldTimer.keep {p k : Nat} {timer : SimpleTimer} (h : HoldTimer b pin t p k timer)
    (hn : ¬HoldDue b pin t p k) : HoldTimer b pin t p (k + 1) timer := by
  intro hpos
  rw [holdDone_succ]
  rcases h hpos with ⟨hd, he⟩ | ⟨hd, ha⟩
  · exact Or.inl ⟨Or.inl hd, he⟩
  · exact Or.inr ⟨fun hc => hc.elim hd (fun h' => hn h'.2), ha⟩

/-- Nor by one that comes after the hold was reported. -/
theorem HoldTimer.keep_done {p k : Nat} {timer : SimpleTimer} (h : HoldTimer b pin t p k timer)
    (hd : HoldDone b pin t p k) : HoldTimer b pin t p (k + 1) timer := by
  intro hpos
  rw [holdDone_succ]
  rcases h hpos with ⟨_, he⟩ | ⟨hn, _⟩
  · exact Or.inl ⟨Or.inl hd, he⟩
  · exact absurd hd hn

theorem PressedSince.extend {p k : Nat} (h : PressedSince b pin t p k)
    (hl : level b pin t (k + 1) = true) : PressedSince b pin t p (k + 1) where
  before := Nat.lt_succ_of_lt h.before
  flip := h.flip
  lasts := by
    intro i hi hik
    rcases Nat.lt_or_ge k i with hlt | hge
    · obtain rfl : i = k + 1 := by omega
      exact hl
    · exact h.lasts i hi hge

theorem PressedSince.level_eq {p k : Nat} (h : PressedSince b pin t p k) :
    level b pin t k = true := h.lasts k h.before (Nat.le_refl k)

/-- A timer set up during update `k`. -/
theorem armed_setup {k : Nat} (hfit : (t k).toNat + 2 ^ 32 < 2 ^ 64) (ms : UInt32) :
    (simpleTimerSetup (t k) ms.toUInt64 false).Armed ((t k).toNat + ms.toNat) := by
  have hlt := ms.toNat_lt
  have harm := @SimpleTimer.armed_setup (t k) ms.toUInt64
    (by rw [UInt32.toNat_toUInt64]; omega)
  rw [UInt32.toNat_toUInt64] at harm
  exact harm

theorem armed_debounce {k : Nat} (hfit : (t k).toNat + 2 ^ 32 < 2 ^ 64) :
    (simpleTimerSetup (t k) (buttonAfter b pin t k).debounceMs.toUInt64 false).Armed
      ((t k).toNat + b.debounceMs.toNat) := by
  rw [(buttonAfter_config k).2.1]
  exact armed_setup hfit b.debounceMs

/-! ## One update, state by state -/

theorem step_idle {k : Nat} (hfit : (t k).toNat + 2 ^ 32 < 2 ^ 64)
    (hs : (buttonAfter b pin t k).state = .idle) (hl : level b pin t k = false)
    (hlast : ∀ i, i + 1 = k → sample b pin i = false) :
    Tracks b pin t (k + 1) ∧ Filters b pin t k := by
  cases ha : sample b pin k with
  | false =>
      have hup : buttonAfter b pin t (k + 1) = buttonAfter b pin t k :=
        update_idle_low ⟨pin k, t k, t k⟩ hs ((readPin_after k).trans ha)
      have hl' : level b pin t (k + 1) = level b pin t k := by rw [level, hup]; rfl
      refine ⟨.idle (by rw [hup]; exact hs) (hl'.trans hl) ?_,
        filters_quiet hl' (by rw [hup]) ?_ ?_⟩
      · exact last_sample ha
      · intro j hj hr
        exact absurd hr (no_run_of_level (ha.trans hl.symm) hj)
      · intro p hp
        exact absurd hp (not_pressedSince hl p)
  | true =>
      -- the window opens here, so no run can already be older than this update
      have hup : buttonAfter b pin t (k + 1) = _ :=
        update_idle_high ⟨pin k, t k, t k⟩ hs ((readPin_after k).trans ha)
      have hl' : level b pin t (k + 1) = level b pin t k := by rw [level, hup]; rfl
      refine ⟨.debounce k (by rw [hup]) (hl'.trans hl) (Nat.lt_succ_self k) ?_ hlast ?_,
        filters_quiet hl' (by rw [hup]) ?_ ?_⟩
      · intro i hi hik
        obtain rfl : i = k := by omega
        exact ha
      · rw [hup]; exact armed_debounce hfit
      · intro j hj hr
        exact absurd hr (no_run_of_last (by rw [hl]; exact hlast) hj)
      · intro p hp
        exact absurd hp (not_pressedSince hl p)

theorem step_debounce {j k : Nat} (hfit : (t k).toNat + 2 ^ 32 < 2 ^ 64)
    (hs : (buttonAfter b pin t k).state = .debounce) (hl : level b pin t k = false) (hj : j < k)
    (hrun : ∀ i, j ≤ i → i < k → sample b pin i = true)
    (hmax : ∀ i, i + 1 = j → sample b pin i = false)
    (htm : (buttonAfter b pin t k).debounceTimer.Armed ((t j).toNat + b.debounceMs.toNat)) :
    Tracks b pin t (k + 1) ∧ Filters b pin t k := by
  cases ha : sample b pin k with
  | false =>
      have hup : buttonAfter b pin t (k + 1) = _ :=
        update_debounce_low ⟨pin k, t k, t k⟩ hs ((readPin_after k).trans ha)
      have hl' : level b pin t (k + 1) = level b pin t k := by rw [level, hup]; rfl
      refine ⟨.idle (by rw [hup]) (hl'.trans hl) ?_, filters_quiet hl' (by rw [hup]) ?_ ?_⟩
      · exact last_sample ha
      · intro j hj hr
        exact absurd hr (no_run_of_level (ha.trans hl.symm) hj)
      · intro p hp
        exact absurd hp (not_pressedSince hl p)
  | true =>
      have hrun' := run_extend hrun ha
      have hrf : RunFrom b pin (level b pin t k) j k := by
        rw [hl]
        exact runFrom_of_run (by simp) hrun' hmax
      rcases Nat.lt_or_ge (t k).toNat ((t j).toNat + b.debounceMs.toNat) with hlt | hge
      · -- the window is still open
        have hpoll := htm.poll_early hlt
        have hup : buttonAfter b pin t (k + 1) = _ :=
          update_debounce_wait ⟨pin k, t k, t k⟩ hs ((readPin_after k).trans ha) (by rw [hpoll])
        have hl' : level b pin t (k + 1) = level b pin t k := by rw [level, hup]; rfl
        refine ⟨.debounce j (by rw [hup]; exact hs) (hl'.trans hl) (by omega) hrun' hmax ?_,
          filters_quiet hl' (by rw [hup]) ?_ ?_⟩
        · rw [hup, hpoll]; exact htm
        · intro j' hj' hr
          rw [hr.unique hrf (Nat.le_of_lt hj') (Nat.le_of_lt hj)]
          exact hlt
        · intro p hp
          exact absurd hp (not_pressedSince hl p)
      · -- the window has closed: the press is confirmed
        have hpoll := htm.poll_due hge
        have hup : buttonAfter b pin t (k + 1) = _ :=
          update_debounce_press ⟨pin k, t k, t k⟩ hs ((readPin_after k).trans ha) (by rw [hpoll])
        have hl' : level b pin t (k + 1) = true := by rw [level, hup]; rfl
        have hem : Emits b pin t k .pressed := by rw [Emits, hup]
        have hflip : PressFlip b pin t k := ⟨hl, hl'⟩
        refine ⟨.pressed k (by rw [hup]) ⟨Nat.lt_succ_self k, hflip, ?_⟩ ?_ ?_, ?_, ?_, ?_, ?_⟩
        · intro i hi hik
          obtain rfl : i = k + 1 := by omega
          exact hl'
        · exact last_sample ha
        · intro hpos
          refine Or.inr ⟨?_, ?_⟩
          · rintro ⟨k', h1, h2, _⟩
            omega
          · have hcfg := (@buttonAfter_config b pin t k).2.2
            have hgt : b.holdTimeMs > 0 := UInt32.lt_iff_toNat_lt.mpr hpos
            rw [hup]
            simp only [hcfg, if_pos hgt]
            exact armed_setup hfit b.holdTimeMs
        · rw [hl', hl]
          exact ⟨fun _ => ⟨j, hj, by rw [← hl]; exact hrf, hge⟩, fun _ => by simp⟩
        · exact ⟨fun _ => hflip, fun _ => hem⟩
        · rw [emits_iff hem, hl]
          simp
        · rw [emits_iff hem]
          refine ⟨fun h => absurd h (by simp), ?_⟩
          rintro ⟨p, hp, _⟩
          exact absurd hp (not_pressedSince hl p)

theorem step_release_opens {p k : Nat} (hfit : (t k).toNat + 2 ^ 32 < 2 ^ 64)
    (hs : (buttonAfter b pin t k).state = .pressed ∨ (buttonAfter b pin t k).state = .held)
    (hp : PressedSince b pin t p k) (hlast : ∀ i, i + 1 = k → sample b pin i = true)
    (hh : HoldTimer b pin t p k (buttonAfter b pin t k).holdTimer)
    (ha : sample b pin k = false) : Tracks b pin t (k + 1) ∧ Filters b pin t k := by
  have hl := hp.level_eq
  have hnd : ∀ p', ¬HoldDue b pin t p' k := fun p' h => absurd (ha.symm.trans h.active) (by simp)
  have hup : buttonAfter b pin t (k + 1) = _ :=
    update_release ⟨pin k, t k, t k⟩ hs ((readPin_after k).trans ha)
  have hl' : level b pin t (k + 1) = level b pin t k := by rw [level, hup]; rfl
  refine ⟨.releaseDb p k (by rw [hup]) (hp.extend (hl'.trans hl)) (Nat.lt_succ_self k) ?_ hlast ?_
    ?_, filters_quiet hl' (by rw [hup]) ?_ ?_⟩
  · intro i hi hik
    obtain rfl : i = k := by omega
    exact ha
  · rw [hup]; exact armed_debounce hfit
  · rw [hup]; exact hh.keep (hnd p)
  · intro j hj hr
    exact absurd hr (no_run_of_last (by rw [hl]; exact hlast) hj)
  · intro p' _ hd
    exact absurd hd (hnd p')

theorem step_pressed {p k : Nat} (hfit : (t k).toNat + 2 ^ 32 < 2 ^ 64)
    (hs : (buttonAfter b pin t k).state = .pressed) (hp : PressedSince b pin t p k)
    (hlast : ∀ i, i + 1 = k → sample b pin i = true)
    (hh : HoldTimer b pin t p k (buttonAfter b pin t k).holdTimer) :
    Tracks b pin t (k + 1) ∧ Filters b pin t k := by
  cases ha : sample b pin k with
  | false => exact step_release_opens hfit (Or.inl hs) hp hlast hh ha
  | true =>
      have hl := hp.level_eq
      have hcfg := (@buttonAfter_config b pin t k).2.2
      have hlast' := last_sample ha
      have hnorun : ∀ j, j < k → RunFrom b pin (level b pin t k) j k →
          (t k).toNat < (t j).toNat + b.debounceMs.toNat :=
        fun j hj hr => absurd hr (no_run_of_level (ha.trans hl.symm) hj)
      by_cases hpos : 0 < b.holdTimeMs.toNat
      · have hgt : (buttonAfter b pin t k).holdTimeMs > 0 := by
          rw [hcfg]; exact UInt32.lt_iff_toNat_lt.mpr hpos
        -- an update that only polls the hold timer
        have key : (simpleTimerHasElapsed (buttonAfter b pin t k).holdTimer (t k)).1 = false →
            (simpleTimerHasElapsed (buttonAfter b pin t k).holdTimer (t k)).2
              = (buttonAfter b pin t k).holdTimer →
            (HoldDue b pin t p k → HoldDone b pin t p k) →
            Tracks b pin t (k + 1) ∧ Filters b pin t k := by
          intro he htm hdue
          have hup : buttonAfter b pin t (k + 1) = _ :=
            update_pressed_wait ⟨pin k, t k, t k⟩ hs ((readPin_after k).trans ha) hgt he
          have hl' : level b pin t (k + 1) = level b pin t k := by rw [level, hup]; rfl
          refine ⟨.pressed p (by rw [hup]; exact hs) (hp.extend (hl'.trans hl)) hlast' ?_,
            filters_quiet hl' (by rw [hup]) hnorun ?_⟩
          · rw [hup, htm]
            by_cases hd : HoldDue b pin t p k
            · exact hh.keep_done (hdue hd)
            · exact hh.keep hd
          · intro p' hp' hd
            rw [hp'.unique hp] at hd ⊢
            exact hdue hd
        rcases hh hpos with ⟨hdone, hlat⟩ | ⟨hnd, harm⟩
        · -- reported before: the latch keeps it quiet
          have hpoll := hasElapsed_latched (t k) hlat
          exact key (by rw [hpoll]) (by rw [hpoll]) (fun _ => hdone)
        · rcases Nat.lt_or_ge (t k).toNat ((t p).toNat + b.holdTimeMs.toNat) with hlt | hge
          · have hpoll := harm.poll_early hlt
            refine key (by rw [hpoll]) (by rw [hpoll]) (fun hd => ?_)
            have := hd.elapsed
            omega
          · have hpoll := harm.poll_due hge
            have hdue : HoldDue b pin t p k := ⟨hlast, ha, hpos, hge⟩
            have hup : buttonAfter b pin t (k + 1) = _ :=
              update_pressed_hold ⟨pin k, t k, t k⟩ hs ((readPin_after k).trans ha) hgt
                (by rw [hpoll])
            have hl' : level b pin t (k + 1) = level b pin t k := by rw [level, hup]; rfl
            have hem : Emits b pin t k .held := by rw [Emits, hup]
            have hdone : HoldDone b pin t p (k + 1) :=
              holdDone_succ.mpr (Or.inr ⟨hp.before, hdue⟩)
            refine ⟨.held p (by rw [hup]) (hp.extend (hl'.trans hl)) hlast' hdone ?_,
              ?_, ?_, ?_, ?_⟩
            · intro _
              refine Or.inl ⟨hdone, ?_⟩
              rw [hup, hpoll]
            · refine ⟨fun h => absurd hl' h, ?_⟩
              rintro ⟨j, hj, hr, he⟩
              have := hnorun j hj hr
              omega
            · rw [emits_iff hem, PressFlip, hl]
              simp
            · rw [emits_iff hem, hl', hl]
              simp
            · exact ⟨fun _ => ⟨p, hp, hdue, hnd⟩, fun _ => hem⟩
      · have hgt : ¬(buttonAfter b pin t k).holdTimeMs > 0 := by
          rw [hcfg]; exact fun h => hpos (UInt32.lt_iff_toNat_lt.mp h)
        have hnd : ∀ p', ¬HoldDue b pin t p' k := fun p' h => hpos h.enabled
        have hup : buttonAfter b pin t (k + 1) = _ :=
          update_pressed_noHold ⟨pin k, t k, t k⟩ hs ((readPin_after k).trans ha) hgt
        have hl' : level b pin t (k + 1) = level b pin t k := by rw [level, hup]; rfl
        refine ⟨.pressed p (by rw [hup]; exact hs) (hp.extend (hl'.trans hl)) hlast' ?_,
          filters_quiet hl' (by rw [hup]) hnorun (fun p' _ hd => absurd hd (hnd p'))⟩
        rw [hup]; exact hh.keep (hnd p)

theorem step_held {p k : Nat} (hfit : (t k).toNat + 2 ^ 32 < 2 ^ 64)
    (hs : (buttonAfter b pin t k).state = .held) (hp : PressedSince b pin t p k)
    (hlast : ∀ i, i + 1 = k → sample b pin i = true) (hd : HoldDone b pin t p k)
    (hh : HoldTimer b pin t p k (buttonAfter b pin t k).holdTimer) :
    Tracks b pin t (k + 1) ∧ Filters b pin t k := by
  cases ha : sample b pin k with
  | false => exact step_release_opens hfit (Or.inr hs) hp hlast hh ha
  | true =>
      have hl := hp.level_eq
      have hup : buttonAfter b pin t (k + 1) = _ :=
        update_held_high ⟨pin k, t k, t k⟩ hs ((readPin_after k).trans ha)
      have hl' : level b pin t (k + 1) = level b pin t k := by rw [level, hup]; rfl
      refine ⟨.held p (by rw [hup]; exact hs) (hp.extend (hl'.trans hl)) ?_
        (holdDone_succ.mpr (Or.inl hd)) ?_, filters_quiet hl' (by rw [hup]) ?_ ?_⟩
      · exact last_sample ha
      · rw [hup]; exact hh.keep_done hd
      · intro j hj hr
        exact absurd hr (no_run_of_level (ha.trans hl.symm) hj)
      · intro p' hp' _
        rw [hp'.unique hp]
        exact hd

theorem step_releaseDb {p j k : Nat} (hs : (buttonAfter b pin t k).state = .releaseDb)
    (hp : PressedSince b pin t p k) (hj : j < k)
    (hrun : ∀ i, j ≤ i → i < k → sample b pin i = false)
    (hmax : ∀ i, i + 1 = j → sample b pin i = true)
    (htm : (buttonAfter b pin t k).debounceTimer.Armed ((t j).toNat + b.debounceMs.toNat))
    (hh : HoldTimer b pin t p k (buttonAfter b pin t k).holdTimer) :
    Tracks b pin t (k + 1) ∧ Filters b pin t k := by
  have hl := hp.level_eq
  -- the last sample was inactive, so no hold can come due at this update
  have hnd : ∀ p', ¬HoldDue b pin t p' k := by
    intro p' h
    have h1 := h.previous (k - 1) (by omega)
    rw [hrun (k - 1) (by omega) (by omega)] at h1
    exact absurd h1 (by simp)
  cases ha : sample b pin k with
  | true =>
      have hup : buttonAfter b pin t (k + 1) = _ :=
        update_releaseDb_high ⟨pin k, t k, t k⟩ hs ((readPin_after k).trans ha)
      have hl' : level b pin t (k + 1) = level b pin t k := by rw [level, hup]; rfl
      refine ⟨.pressed p (by rw [hup]) (hp.extend (hl'.trans hl)) ?_ ?_,
        filters_quiet hl' (by rw [hup]) ?_ (fun p' _ hd => absurd hd (hnd p'))⟩
      · exact last_sample ha
      · rw [hup]; exact hh.keep (hnd p)
      · intro j hj hr
        exact absurd hr (no_run_of_level (ha.trans hl.symm) hj)
  | false =>
      have hrun' := run_extend hrun ha
      have hrf : RunFrom b pin (level b pin t k) j k := by
        rw [hl]
        exact runFrom_of_run (by simp) hrun' hmax
      rcases Nat.lt_or_ge (t k).toNat ((t j).toNat + b.debounceMs.toNat) with hlt | hge
      · -- the window is still open
        have hpoll := htm.poll_early hlt
        have hup : buttonAfter b pin t (k + 1) = _ :=
          update_releaseDb_wait ⟨pin k, t k, t k⟩ hs ((readPin_after k).trans ha) (by rw [hpoll])
        have hl' : level b pin t (k + 1) = level b pin t k := by rw [level, hup]; rfl
        refine ⟨.releaseDb p j (by rw [hup]; exact hs) (hp.extend (hl'.trans hl)) (by omega) hrun'
          hmax ?_ ?_, filters_quiet hl' (by rw [hup]) ?_ (fun p' _ hd => absurd hd (hnd p'))⟩
        · rw [hup, hpoll]; exact htm
        · rw [hup]; exact hh.keep (hnd p)
        · intro j' hj' hr
          rw [hr.unique hrf (Nat.le_of_lt hj') (Nat.le_of_lt hj)]
          exact hlt
      · -- the window has closed: the release is confirmed
        have hpoll := htm.poll_due hge
        have hup : buttonAfter b pin t (k + 1) = _ :=
          update_releaseDb_release ⟨pin k, t k, t k⟩ hs ((readPin_after k).trans ha) (by rw [hpoll])
        have hl' : level b pin t (k + 1) = false := by rw [level, hup]; rfl
        have hem : Emits b pin t k .released := by rw [Emits, hup]
        refine ⟨.idle (by rw [hup]) hl' ?_, ?_, ?_, ?_, ?_⟩
        · exact last_sample ha
        · rw [hl', hl]
          exact ⟨fun _ => ⟨j, hj, by rw [← hl]; exact hrf, hge⟩, fun _ => by simp⟩
        · rw [emits_iff hem, PressFlip, hl]
          simp
        · exact ⟨fun _ => ⟨hl, hl'⟩, fun _ => hem⟩
        · rw [emits_iff hem]
          refine ⟨fun h => absurd h (by simp), ?_⟩
          rintro ⟨p', _, hd, _⟩
          exact absurd hd (hnd p')

/-- **One update preserves the invariant and does what the filter says.** -/
theorem tracks_step {k : Nat} (hk : (t k).toNat + 2 ^ 32 < 2 ^ 64) (h : Tracks b pin t k) :
    Tracks b pin t (k + 1) ∧ Filters b pin t k := by
  cases h with
  | idle hs hl hlast => exact step_idle hk hs hl hlast
  | debounce j hs hl hj hrun hmax htm => exact step_debounce hk hs hl hj hrun hmax htm
  | pressed p hs hp hlast hh => exact step_pressed hk hs hp hlast hh
  | held p hs hp hlast hd hh => exact step_held hk hs hp hlast hd hh
  | releaseDb p j hs hp hj hrun hmax htm hh => exact step_releaseDb hs hp hj hrun hmax htm hh

/-! ## Whole runs -/

/-- The level of a button is a function of its state. -/
def LevelOfState (b : Button) : Prop :=
  b.isPressed = true ↔ (b.state = .pressed ∨ b.state = .held ∨ b.state = .releaseDb)

theorem levelOfState_update {b : Button} (h : LevelOfState b) (env : ButtonEnv) :
    LevelOfState (buttonUpdate b env) := by
  unfold LevelOfState at h ⊢
  unfold buttonUpdate Button.store
  cases hs : b.state with
  | idle =>
      rw [hs] at h
      dsimp only
      split
      all_goals simp_all
  | debounce =>
      rw [hs] at h
      dsimp only
      repeat' split
      all_goals simp_all
  | pressed =>
      rw [hs] at h
      dsimp only
      repeat' split
      all_goals simp_all
  | held =>
      rw [hs] at h
      dsimp only
      repeat' split
      all_goals simp_all
  | releaseDb =>
      rw [hs] at h
      dsimp only
      repeat' split
      all_goals simp_all

theorem levelOfState_reachable {b : Button} (h : ButtonReachable b) : LevelOfState b := by
  induction h with
  | created name pinId db hold uuid => simp [LevelOfState, Button.created]
  | update env _ ih => exact levelOfState_update ih env
  | getEvent _ ih => exact ih
  | invertLogic _ ih => exact ih

/-- Every state the run goes through is one the filter explains. -/
theorem tracks_run {n : Nat} (hs : b.state = .idle) (hl : b.isPressed = false)
    (hfit : ∀ k, k < n → (t k).toNat + 2 ^ 32 < 2 ^ 64) : ∀ k, k ≤ n → Tracks b pin t k := by
  intro k
  induction k with
  | zero => intro _; exact .idle hs hl (fun i hi => absurd hi (by omega))
  | succ k ih =>
      intro hk
      exact (tracks_step (hfit k (by omega)) (ih (by omega))).1

/--
**Debouncing equals the reference filter.**

Whatever a button went through before it came to rest in `IDLE`, whatever its
windows and its `inverted` flag, and whatever the pin does from then on: at every
update the level flips, and the three events are stored, exactly when the filter
says, and what is stored is what is pending afterwards. The clock is one reading per
update and has to stay clear of wrapping; that it does not go back is not needed.
-/
theorem button_debounces {b : Button} (hr : ButtonReachable b) (hs : b.state = .idle)
    (pin : Nat → IoRead) (t : Nat → UInt64) (n : Nat)
    (hfit : ∀ k, k < n → (t k).toNat + 2 ^ 32 < 2 ^ 64) :
    ∀ k, k < n → Filters b pin t k
      ∧ LeftPending (buttonAfter b pin t k) (buttonAfter b pin t (k + 1)) := by
  intro k hk
  have hl : b.isPressed = false := by
    cases hc : b.isPressed with
    | false => rfl
    | true =>
        have hst := (levelOfState_reachable hr).mp hc
        rw [hs] at hst
        exact absurd hst (by simp)
  exact ⟨(tracks_step (hfit k hk) (tracks_run hs hl hfit k (by omega))).2,
    update_leftPending _ _⟩

/-- A press of a button with a 20 ms window: active from 10 ms on, confirmed at 30 ms. -/
theorem button_debounces_press :
    let b := Button.created none 3 20 0 1
    let pin := fun k => IoRead.mk .ok (if k = 0 then some 0 else some 1)
    let t := fun k => UInt64.ofNat (10 * k)
    (Filters b pin t 3 ∧ LeftPending (buttonAfter b pin t 3) (buttonAfter b pin t 4))
      ∧ level b pin t 3 = false ∧ level b pin t 4 = true
      ∧ (buttonAfter b pin t 4).pendingEvent = .pressed := by
  refine ⟨?_, by decide, by decide, by decide⟩
  refine button_debounces (.created none 3 20 0 1) rfl _ _ 4 (fun k hk => ?_) 3 (by decide)
  have : k = 0 ∨ k = 1 ∨ k = 2 ∨ k = 3 := by omega
  rcases this with rfl | rfl | rfl | rfl
  all_goals decide

end FwCore.Proof
