import FwCore.Proof.FaultRecord

/-!
# What `on_recover` sees

A fault returns to `FAULT_STATE_IDLE` by two paths, the cooldown of `fault_update` and
`fault_clear`. Both call `on_recover`, and a handler that asks `fault_any_active` there
wants to hear of the *other* faults.

The cooldown clears the fault's bit of `active_mask` first and calls out then.
`fault_clear` does it the other way round: its handler runs with the bit still set, so
`fault_any_active` says true of a system in which nothing else is wrong. The bit is
gone only where somebody else removed it in time, and the one who can before the handler
runs is the fault's own `detect`, by clearing the fault itself.

The other faults are told of wrongly too if the clear is made by a callback, while
`fault_update` is in the middle of a transition: the fault it visits has its bit set and is
still `IDLE`, or has it cleared and is still `RECOVERING`. Only a third fault that is away
from idle makes up for that.
-/

namespace FwCore.Proof

open FwCore Lib

section

variable {n : Nat}

/-- The fault is registered, and away from `FAULT_STATE_IDLE`. -/
def Away (w : FaultWorld n) (j : Fin n) : Prop :=
  j.val < w.sys.faultCount ∧ ((w.fault j).state = .active ∨ (w.fault j).state = .recovering)

instance (w : FaultWorld n) (j : Fin n) : Decidable (Away w j) :=
  inferInstanceAs (Decidable (_ ∧ _))

/-- Fault `i`'s bit is clear, and `fault_any_active` tells of the others. -/
structure SeesOthers (i : Fin n) (u : FaultWorld n) : Prop where
  /-- The fault's own bit of `active_mask` is clear. -/
  own : u.sys.activeMask.getLsbD i.val = false
  /-- `fault_any_active` is true iff another registered fault is not idle. -/
  others : faultAnyActive u = true ↔ ∃ j : Fin n, j ≠ i ∧ Away u j

/-- A fault that is neither of the two is away from `FAULT_STATE_IDLE`. -/
def ThirdAway (i k : Fin n) (w : FaultWorld n) : Prop := ∃ j : Fin n, j ≠ i ∧ j ≠ k ∧ Away w j

instance (i k : Fin n) (w : FaultWorld n) : Decidable (ThirdAway i k w) :=
  inferInstanceAs (Decidable (∃ j : Fin n, j ≠ i ∧ j ≠ k ∧ Away w j))

variable {ops : List (FaultOp n)} {between : Option (Fin n)} {i j k : Fin n} {c : Script}
  {w v : FaultWorld n} {r : Recovery n} {detect onRecover : FaultWorld n → FaultWorld n}

/-! ## When the others are seen -/

/-- Some bit of `active_mask` is set, and the fault it belongs to is in the registry. -/
theorem anyActive_bit {ex : Option (Fin n)} (hn : n ≤ 32) (hv : MasksOk ex v) :
    faultAnyActive v = true ↔ ∃ j : Fin n, v.sys.activeMask.getLsbD j.val = true := by
  unfold faultAnyActive
  rw [bne_iff_ne, ne_zero_iff]
  constructor
  · intro ⟨b, _, hb⟩
    have hbn : b < n := by
      rcases Nat.lt_or_ge b n with hlt | hge
      · exact hlt
      · rw [(hv.beyond b hge).1] at hb
        exact absurd hb (by simp)
    exact ⟨⟨b, hbn⟩, hb⟩
  · intro ⟨j, hj⟩
    exact ⟨j.val, Nat.lt_of_lt_of_le j.isLt hn, hj⟩

/-- The bit of a fault whose mask and state agree. -/
theorem MasksOk.away {ex : Option (Fin n)} (hv : MasksOk ex v) (hj : ex ≠ some j) :
    v.sys.activeMask.getLsbD j.val = true ↔ Away v j :=
  (hv.active j hj).trans (and_congr_right fun _ => ne_idle_iff _)

/-- Where the masks agree with all faults but `i`, a clear bit for `i` is all it takes. -/
theorem seesOthers_of_own (hn : n ≤ 32) (hv : MasksOk (some i) v)
    (hown : v.sys.activeMask.getLsbD i.val = false) : SeesOthers i v := by
  refine ⟨hown, (anyActive_bit hn hv).trans ⟨fun ⟨j, hj⟩ => ?_, fun ⟨j, hne, hj⟩ => ?_⟩⟩
  · have hne : j ≠ i := by
      rintro rfl
      exact absurd (hown.symm.trans hj) (by simp)
    exact ⟨j, hne, (hv.away fun he => hne (Option.some.inj he).symm).mp hj⟩
  · exact ⟨j, (hv.away fun he => hne (Option.some.inj he).symm).mpr hj⟩

/-- A fault that is not `ACTIVE` may be left out of the invariant. -/
theorem MasksOk.leave (hw : MasksOk none w) (hi : i.val < w.sys.faultCount)
    (hs : (w.fault i).state ≠ .active) : MasksOk (some i) w where
  index := hw.index
  active := fun j _ => hw.active j (by simp)
  history := hw.history
  beyond := hw.beyond
  handles := hw.handles
  exempt := by
    intro j hj
    obtain rfl : i = j := Option.some.inj hj
    exact ⟨hi, hs⟩

/-- The own bit of a fault that is being cleared says whether the fault is idle by now. -/
theorem PointOk.own (hv : PointOk between v) (hi : i.val < v.sys.faultCount)
    (hbetween : between ≠ some i) :
    v.sys.activeMask.getLsbD i.val = false ↔ (v.fault i).state = .idle := by
  have hbit := hv.masks.active i hbetween
  constructor
  · intro hoff
    refine Decidable.byContradiction fun hs => ?_
    exact absurd (hoff.symm.trans (hbit.mpr ⟨hi, hs⟩)) (by simp)
  · intro hs
    exact Bool.eq_false_iff.mpr fun hon => (hbit.mp hon).2 hs

/-- While a fault is cleared and no transition is under way around it. -/
theorem seesOthers_settled (hn : n ≤ 32) (hv : PointOk none v) (hi : i.val < v.sys.faultCount) :
    SeesOthers i v ↔ (v.fault i).state = .idle := by
  have hown := hv.own hi (by simp)
  refine ⟨fun h => hown.mp h.own, fun hs => ?_⟩
  exact seesOthers_of_own hn (hv.masks.leave hi (by simp [hs])) (hown.mpr hs)

/--
While a fault is cleared and a transition of fault `k` is under way around it: the bit of `k`
is taken for a fault that is away, or `k` is away and has no bit.
-/
theorem seesOthers_between (hn : n ≤ 32) (hv : PointOk (some k) v) (hik : i ≠ k)
    (hi : i.val < v.sys.faultCount) :
    SeesOthers i v ↔ (v.fault i).state = .idle ∧ ThirdAway i k v := by
  have hown := hv.own hi fun he => hik (Option.some.inj he).symm
  have haway : ∀ j, j ≠ k → (v.sys.activeMask.getLsbD j.val = true ↔ Away v j) :=
    fun j hj => hv.masks.away fun he => hj (Option.some.inj he).symm
  obtain ⟨hk, hactive⟩ := hv.masks.exempt k rfl
  have hapart := hv.apart k rfl
  constructor
  · intro h
    refine ⟨hown.mp h.own, ?_⟩
    cases hs : (v.fault k).state with
    | active => exact absurd hs hactive
    | idle =>
        -- its bit makes the answer true, so somebody else must be away
        obtain ⟨j, hji, hj⟩ := h.others.mp ((anyActive_bit hn hv.masks).mpr ⟨k, hapart.mpr hs⟩)
        refine ⟨j, hji, ?_, hj⟩
        rintro rfl
        rw [Away, hs] at hj
        simp at hj
    | recovering =>
        -- it is away itself, so the answer is true, by the bit of somebody else
        have hany := h.others.mpr ⟨k, Ne.symm hik, hk, Or.inr hs⟩
        obtain ⟨j, hj⟩ := (anyActive_bit hn hv.masks).mp hany
        have hjk : j ≠ k := by
          rintro rfl
          rw [hapart.mp hj] at hs
          simp at hs
        have hji : j ≠ i := by
          rintro rfl
          exact absurd (h.own.symm.trans hj) (by simp)
        exact ⟨j, hji, hjk, (haway j hjk).mp hj⟩
  · intro ⟨hs, j, hji, hjk, hj⟩
    have hany := (anyActive_bit hn hv.masks).mpr ⟨j, (haway j hjk).mpr hj⟩
    exact ⟨hown.mpr hs, iff_of_true hany ⟨j, hji, hj⟩⟩

/-! ## While the call lasts -/

/-- What is idle a callback does not raise. -/
theorem notAway_kept (j : Fin n) : Kept fun w => ¬Away w j where
  emit := fun h _ => h
  assign := by
    intro w h s hcount hstates haway
    obtain ⟨hj, hs⟩ := haway
    refine h ⟨Nat.lt_of_lt_of_eq hj hcount, ?_⟩
    rcases hstates j with hsame | hidle
    · rw [← hsame]
      exact hs
    · have hnone : (s.registry j).state = .active ∨ (s.registry j).state = .recovering := hs
      rw [hidle] at hnone
      simp at hnone
  register := by
    intro w h config haway
    rcases register_cases w config with hr | ⟨c, hroom, hr⟩
    · rw [hr] at haway
      exact h haway
    · rw [hr] at haway
      obtain ⟨hj, hs⟩ := haway
      by_cases hnew : j.val = w.sys.faultCount
      · obtain rfl : j = ⟨w.sys.faultCount, hroom⟩ := Fin.ext hnew
        rw [registerDone_new] at hs
        simp [Fault.register] at hs
      · rw [registerDone_old c hroom hnew] at hs
        exact h ⟨Nat.lt_of_le_of_ne (Nat.le_of_lt_succ hj) hnew, hs⟩

/-- Who is away when the call returns was away all the time. -/
theorem Inside.away {c₀ : Script} {w₀ : FaultWorld n} (h : Inside c₀ w₀ c v)
    (hj : Away (runScript c₀ w₀) j) : Away v j := by
  refine Decidable.byContradiction fun hv => ?_
  exact h.kept (notAway_kept j) ((notAway_kept j).run c hv) hj

/-! ## Nobody reads the trace -/

/-- The trace is written, and never read. -/
def Blind (body : FaultWorld n → FaultWorld n) : Prop :=
  ∀ w t, ∃ t', body { w with trace := t } = { body w with trace := t' }

theorem callDetect_blind (hd : Blind detect) (i : Fin n) (result : Bool) :
    Blind fun w => w.callDetect i detect result := by
  intro w t
  obtain ⟨t', h⟩ := hd w t
  dsimp only
  unfold FaultWorld.callDetect
  rw [h]
  exact ⟨_, rfl⟩

theorem callOnRecover_blind (hr : Blind onRecover) (i : Fin n) :
    Blind fun w => w.callOnRecover i onRecover := by
  intro w t
  dsimp only
  unfold FaultWorld.callOnRecover
  by_cases hgiven : (w.fault i).cfg.onRecover = none
  · exact ⟨t, (if_pos hgiven).trans (by rw [if_pos hgiven])⟩
  · obtain ⟨t', h⟩ := hr (enterRecover w i) (enterRecover { w with trace := t } i).trace
    exact ⟨t', (if_neg hgiven).trans (h.trans (by rw [if_neg hgiven]; rfl))⟩

theorem faultClear_blind (hd : Blind detect) (hr : Blind onRecover) (handle : Option (Fin n))
    (result : Bool) : Blind fun w => faultClear w handle detect result onRecover := by
  intro w t
  cases handle with
  | none => exact ⟨t, rfl⟩
  | some i =>
      obtain ⟨t₁, h₁⟩ := callDetect_blind hd i result w t
      dsimp only at h₁ ⊢
      by_cases hs : (w.fault i).state = .active
      · have hs' : (FaultWorld.fault { w with trace := t } i).state = .active := hs
        cases result with
        | true =>
            rw [faultClear_refuses hs, faultClear_refuses hs', h₁]
            exact ⟨_, rfl⟩
        | false =>
            rw [faultClear_recovers hs, faultClear_recovers hs']
            obtain ⟨t₂, h₂⟩ := callOnRecover_blind hr i (clearWorld w i detect)
              (clearWorld { w with trace := t } i detect).trace
            have hclear : clearWorld { w with trace := t } i detect = { clearWorld w i detect with
                trace := (clearWorld { w with trace := t } i detect).trace } := by
              unfold clearWorld
              rw [h₁]
              rfl
            dsimp only at h₂
            rw [hclear, h₂]
            exact ⟨_, rfl⟩
      · have hs' : (FaultWorld.fault { w with trace := t } i).state ≠ .active := hs
        rw [faultClear_inactive hs, faultClear_inactive hs']
        exact ⟨t, rfl⟩

theorem historyClear_blind (handle : Option (Fin n)) :
    Blind fun w : FaultWorld n => w.historyClear handle := by
  intro w t
  cases handle with
  | none => exact ⟨t, rfl⟩
  | some i => exact ⟨_, rfl⟩

theorem runScript_blind (script : Script) : Blind (runScript (n := n) script) := by
  induction script with
  | done => exact fun w t => ⟨t, rfl⟩
  | historyClear name rest ih =>
      intro w t
      obtain ⟨t₁, h⟩ := historyClear_blind (w.handle name) w t
      obtain ⟨t₂, hrest⟩ := ih (w.historyClear (w.handle name)) t₁
      exact ⟨t₂, (congrArg (runScript rest) h).trans hrest⟩
  | historyClearAll rest ih =>
      intro w t
      obtain ⟨t', hrest⟩ := ih w.historyClearAll (t ++ [.historyClearAll])
      exact ⟨t', hrest⟩
  | register config rest ih =>
      intro w t
      obtain ⟨t', hrest⟩ := ih (w.register config) t
      exact ⟨t', hrest⟩
  | clear name detect result onRecover rest ihd ihr ih =>
      intro w t
      obtain ⟨t₁, h⟩ := faultClear_blind ihd ihr (w.handle name) result w t
      obtain ⟨t₂, hrest⟩ := ih (faultClear w (w.handle name) (runScript detect) result
        (runScript onRecover)) t₁
      exact ⟨t₂, (congrArg (runScript rest) h).trans hrest⟩

/-- What a clear does between its callbacks has no effect on what they do. -/
theorem thirdAway_callbacks (detect onRecover : Script) (w : FaultWorld n) :
    ThirdAway i k (runScript onRecover (enterRecover (clearWorld w i (runScript detect)) i))
      ↔ ThirdAway i k (runScript onRecover (runScript detect w)) := by
  obtain ⟨t, h⟩ := runScript_blind onRecover (runScript detect w)
    (enterRecover (clearWorld w i (runScript detect)) i).trace
  rw [show enterRecover (clearWorld w i (runScript detect)) i = { runScript detect w with
    trace := (enterRecover (clearWorld w i (runScript detect)) i).trace } from rfl, h]
  exact Iff.rfl

/-! ## The calls -/

/-- Where `on_recover` is called a transition may be under way, but none of this fault. -/
theorem clearWorld_ok (hn : n ≤ 32) {name : Nat} {detect rest onRecover : Script} {result : Bool}
    (reached : Reached ops between (.clear name detect result onRecover rest) w)
    (handle : w.handle name = some i) (active : (w.fault i).state = .active) :
    PointOk between (enterRecover (clearWorld w i (runScript detect)) i)
      ∧ i.val < (clearWorld w i (runScript detect)).sys.faultCount ∧ between ≠ some i := by
  have hw := reached.ok hn
  obtain ⟨hclear, hkeeps⟩ := hw.clearWorld hn i detect
  have hi := handle_registered hw.masks.handles i handle
  refine ⟨hclear.emit _, Nat.lt_of_lt_of_le hi hkeeps.count, fun hbetween => ?_⟩
  exact (hw.masks.exempt i hbetween).2 active

/-- **What `on_recover` sees at one moment of its call.** -/
theorem RecoverCall.sees (hn : n ≤ 32) (h : RecoverCall ops i r)
    (hv : Inside r.onRecover (enterRecover r.world i) c v) :
    SeesOthers i v ↔ (r.path = .cooldown ∨ (v.fault i).state = .idle)
      ∧ ∀ k, r.other = some k → ThirdAway i k v := by
  cases h with
  | cooldown env w visited recovering due gone given =>
      obtain ⟨hw, hi⟩ := visited.ok hn
      obtain ⟨hu, hown⟩ := enterCooldown_ok hn hw hi recovering (env i).elapsedNow (env i).detect
      obtain ⟨hok, hkeeps⟩ := hv.ok hn hu
      -- mask and state of the fault are apart, and no callback touches them
      obtain ⟨hreg, hs⟩ := hu.masks.exempt i rfl
      have hown' := (hkeeps.bit i hreg hs).trans hown
      exact iff_of_true (seesOthers_of_own hn hok.masks hown')
        ⟨Or.inl rfl, fun k hk => absurd hk (by simp)⟩
  | clear between name detect onRecover rest w reached handle active given =>
      obtain ⟨hu, hi, hne⟩ := clearWorld_ok hn reached handle active
      obtain ⟨hok, hkeeps⟩ := hv.ok hn hu
      have hi' := Nat.lt_of_lt_of_le hi hkeeps.count
      have hpath : (RecoveryPath.clear = .cooldown ∨ (v.fault i).state = .idle)
          ↔ (v.fault i).state = .idle := or_iff_right (by simp)
      dsimp only
      rw [hpath]
      cases between with
      | none =>
          rw [seesOthers_settled hn hok hi']
          exact (and_iff_left fun k hk => absurd hk (by simp)).symm
      | some k =>
          rw [seesOthers_between hn hok (fun heq => hne (congrArg some heq.symm)) hi']
          refine and_congr_right fun _ => ⟨fun h k' hk' => ?_, fun h => h k rfl⟩
          obtain rfl := Option.some.inj hk'
          exact h

/-- **What it sees all the while.** -/
theorem RecoverCall.sees_throughout (hn : n ≤ 32) (h : RecoverCall ops i r) :
    (∀ c v, Inside r.onRecover (enterRecover r.world i) c v → SeesOthers i v)
      ↔ (r.path = .cooldown ∨ ((runScript r.detect r.start).fault i).state = .idle)
        ∧ ∀ k, r.other = some k →
          ThirdAway i k (runScript r.onRecover (runScript r.detect r.start)) := by
  constructor
  · intro hsees
    -- look as soon as the handler begins, and once more when it is through
    have hfirst := (h.sees hn .here).mp (hsees _ _ .here)
    have hlast := (h.sees hn (Inside.finish .here)).mp (hsees _ _ (Inside.finish .here))
    cases h with
    | cooldown env w visited recovering due gone given =>
        exact ⟨Or.inl rfl, fun k hk => absurd hk (by simp)⟩
    | clear between name detect onRecover rest w reached handle active given =>
        exact ⟨hfirst.1, fun k hk => (thirdAway_callbacks detect onRecover w).mp (hlast.2 k hk)⟩
  · intro ⟨hown, hthird⟩ c v hv
    refine (h.sees hn hv).mpr ?_
    cases h with
    | cooldown env w visited recovering due gone given =>
        exact ⟨Or.inl rfl, fun k hk => absurd hk (by simp)⟩
    | clear between name detect onRecover rest w reached handle active given =>
        obtain ⟨hu, hi, hne⟩ := clearWorld_ok hn reached handle active
        obtain ⟨hok, hkeeps⟩ := hv.ok hn hu
        refine ⟨hown.imp_right fun hs => ?_, fun k hk => ?_⟩
        · -- what is idle stays so
          have hidle : ((enterRecover (clearWorld w i (runScript detect)) i).fault i).state
              = .idle := hs
          exact (hkeeps.state i hi (by rw [hidle]; simp)).trans hidle
        · obtain ⟨j, hji, hjk, hj⟩ := (thirdAway_callbacks detect onRecover w).mpr (hthird k hk)
          exact ⟨j, hji, hjk, hv.away hj⟩

end

/-- Clear a fault whose `detect` does it first. -/
def clearTwice (name : Nat) : Script :=
  .clear name (.clear name .done false .done .done) false .done .done

/--
Two latched faults. The first triggers, and the `on_fault` of the second clears it twice; then
the program does so with the second.
-/
def clearedTwice : List (FaultOp 2) :=
  [.register (some ⟨none, some 1, some 2, some 3, 0⟩),
    .register (some ⟨none, some 4, some 5, some 6, 0⟩),
    .update (fun i => ⟨0, 0, .done, decide (i.val = 0), .done⟩),
    .update (fun _ => ⟨0, 0, .done, true, clearTwice 0⟩),
    .clear 1 (.clear 1 .done false .done .done) false .done]

/-- The two faults. -/
def firstFault : Fin 2 := ⟨0, by decide⟩

def secondFault : Fin 2 := ⟨1, by decide⟩

/-- The outer clear of the first, and the second is about to become `ACTIVE`. -/
def clearedByOther : Recovery 2 :=
  let w := enterFault (faultRun (.init 2) (clearedTwice.take 3)) secondFault (runScript .done)
  let detect := .clear 0 .done false .done .done
  ⟨.clear, some secondFault, w, detect, .done, clearWorld w firstFault (runScript detect)⟩

/-- The outer clear of the second. -/
def clearedByProgram : Recovery 2 :=
  let w := faultRun (.init 2) (clearedTwice.take 4)
  let detect := .clear 1 .done false .done .done
  ⟨.clear, none, w, detect, .done, clearWorld w secondFault (runScript detect)⟩

end FwCore.Proof
