import FwCore.Proof.FaultCallbacks

/-!
# The protocol under callbacks that call back

A visit of `fault_update` does one of three things to the fault it is made to: what a
callback may do, a trigger, or a recovery; to the others it does what a callback may do.
`TakesTurns` is what the trace says of a fault, and each of the three keeps it. It is the
protocol as it is without such callbacks, except that the rounds follow one another only
if no clear is nested in a clear.
-/

namespace FwCore.Proof

open FwCore Lib

section

variable {n : Nat} {i j : Fin n} {d : Nat} {f f' : Fault} {t E : List (FaultEvent n)}
  {w w' : FaultWorld n}

/-! ## A trigger -/

/-- Fault `i` triggers: `on_fault` is called, and then the fault is away from idle. -/
structure Triggered (i : Fin n) (f f' : Fault) (E : List (FaultEvent n)) : Prop where
  cfg : f'.cfg = f.cfg
  count : f'.triggerCount = f.triggerCount + 1
  away : f'.state ≠ .idle
  /-- `on_fault` may clear the history again, and do nothing else to the fault. -/
  events : ∃ E', E = .onFault i f.cfg.onFault :: E' ∧ steps i E' = []
    ∧ (f'.hasEverTriggered = true ↔ ∀ e ∈ E', ¬ Clears i e)

/-- Fault `i` triggers, and the others go through what `on_fault` does. -/
abbrev TriggersAt (d : Nat) (i j : Fin n) (f f' : Fault) (E : List (FaultEvent n)) : Prop :=
  (j ≠ i ∧ Spared d j f f' E) ∨ (j = i ∧ Triggered i f f' E)

/-- The state that follows a trigger. -/
theorem leaveIdle_spec (w : FaultWorld n) (i : Fin n) (now : UInt64) : ∃ w',
    w' = (if (w.fault i).cfg.recoveryMs > 0 then (w.setupTimer i now).setState i .recovering
      else w.setState i .active)
    ∧ (∃ timer, ∃ s ≠ FaultState.idle,
        w'.fault i = { w.fault i with state := s, recoveryTimer := timer })
    ∧ (∀ j, j ≠ i → w'.fault j = w.fault j)
    ∧ w'.trace = w.trace ∧ w'.sys.faultCount = w.sys.faultCount ∧ w'.handles = w.handles := by
  refine ⟨_, rfl, ?_⟩
  split
  · refine ⟨⟨simpleTimerSetup now (w.fault i).cfg.recoveryMs.toUInt64 false, .recovering,
      by simp, ?_⟩, fun j hj => ?_, rfl, rfl, rfl⟩
    · rw [FaultWorld.setState, FaultWorld.modify_self, FaultWorld.setupTimer,
        FaultWorld.modify_self]
    · rw [FaultWorld.setState, FaultWorld.modify_ne _ i hj, FaultWorld.setupTimer,
        FaultWorld.modify_ne _ i hj]
  · refine ⟨⟨(w.fault i).recoveryTimer, .active, by simp, ?_⟩, fun j hj => ?_, rfl, rfl, rfl⟩
    · rw [FaultWorld.setState, FaultWorld.modify_self]
    · rw [FaultWorld.setState, FaultWorld.modify_ne _ i hj]

theorem trigger_passes {body : FaultWorld n → FaultWorld n} (hb : Depth d body)
    (hh : HandlesOk w) (hs : (w.fault i).state = .idle) (hi : i.val < w.sys.faultCount)
    (fmt : String) (args : FaultWorld n → List UprintArg) (now : UInt64) :
    let v := (w.noteTrigger i).callOnFault i body
    let v := v.print fmt (args v)
    ∃ E, Passes (TriggersAt d i) w
      (if (v.fault i).cfg.recoveryMs > 0 then (v.setupTimer i now).setState i .recovering
        else v.setState i .active) E := by
  intro v₁ v
  have hfn : ((w.noteTrigger i).fault i).cfg.onFault = (w.fault i).cfg.onFault := by
    rw [FaultWorld.noteTrigger_self]
  obtain ⟨E, hbody⟩ :=
    hb ((w.noteTrigger i).emit (.onFault i ((w.noteTrigger i).fault i).cfg.onFault)) hh
  have h : Within d ((w.noteTrigger i).emit (.onFault i ((w.noteTrigger i).fault i).cfg.onFault)) v
      (E ++ [.uprint ⟨fmt, args v₁⟩]) := hbody.trans (within_print hbody.handles fmt (args v₁))
  obtain ⟨w', hw', ⟨timer, s, haway, hat⟩, hne, htrace, hcount, hhandles⟩ := leaveIdle_spec v i now
  rw [← hw']
  have hself := h.each i hi
  rw [FaultWorld.emit_fault, FaultWorld.noteTrigger_self] at hself
  obtain ⟨_, hquiet⟩ := hself.untouched (by simp [hs])
  refine ⟨.onFault i (w.fault i).cfg.onFault :: (E ++ [.uprint ⟨fmt, args v₁⟩]), ?_, ?_,
    fun j hj => ?_, fun j hj => ?_, fun j hj hj' => ?_, ?_⟩
  · rw [htrace]
    refine h.trace.trans ?_
    rw [FaultWorld.emit_trace, hfn, List.append_assoc]
    rfl
  · rw [hcount]
    exact h.count
  · by_cases hji : j = i
    · subst hji
      refine Or.inr ⟨rfl, ?_, ?_, ?_, _, rfl, hquiet, ?_⟩
      · rw [hat]
        exact hself.cfg
      · rw [hat]
        exact hself.count
      · rw [hat]
        exact haway
      · rw [hat]
        exact hself.history.trans ⟨fun hc => hc.2, fun hc => ⟨rfl, hc⟩⟩
    · have hfirst : Spared d j (w.fault j) (w.fault j) [.onFault i (w.fault i).cfg.onFault] :=
        spared_of_silent (by simp [stepAt, Clears, Ne.symm hji]) rfl rfl rfl rfl
      have hrest := h.each j hj
      rw [FaultWorld.emit_fault, FaultWorld.noteTrigger_ne w i hji] at hrest
      rw [hne j hji]
      exact Or.inl ⟨hji, hfirst.trans hrest⟩
  · have hji : i ≠ j := fun he => by rw [← he] at hj; omega
    have hbeyond : steps j (E ++ [.uprint ⟨fmt, args v₁⟩]) = [] := h.beyond j hj
    rw [← List.singleton_append, steps_append, hbeyond]
    simp [steps, stepAt, hji]
  · have hji : j ≠ i := fun he => by rw [he] at hj; omega
    rw [hne j hji]
    rw [hcount] at hj'
    exact h.fresh j hj hj'
  · unfold HandlesOk
    rw [hhandles, hcount]
    exact h.handles

/-! ## Taking turns -/

/-- What the trace says of a fault, where clears may be nested in clears. -/
structure TakesTurns (flat : Prop) (i : Fin n) (f : Fault) (t : List (FaultEvent n)) :
    Prop where
  /-- `on_fault` is not called twice without a return to idle in between. -/
  turns : Alternates (IsOnFault i) (· = .idle i) t
  /-- The fault is away from idle if its last `on_fault` is yet to be followed by a return. -/
  away : f.state ≠ .idle ↔ Since (IsOnFault i) (· = .idle i) t
  count : f.triggerCount = UInt32.ofNat (onFaults i t)
  history : f.hasEverTriggered = true ↔ Since (IsOnFault i) (Clears i) t
  /-- If no clear is nested in another, rounds follow one another. -/
  rounds : flat → Rounds (faultRound f.cfg) (pending f) (steps i t)

variable {flat : Prop}

theorem onFaults_silent (h : ∀ e ∈ E, ¬ IsOnFault i e) : onFaults i E = 0 := by
  refine List.countP_eq_zero.mpr fun step hstep => ?_
  obtain ⟨e, he, hat⟩ := List.mem_filterMap.mp hstep
  cases e with
  | onFault j fn =>
      by_cases hj : j = i
      · exact absurd ⟨fn, by rw [hj]⟩ (h _ he)
      · simp [stepAt, hj] at hat
  | onRecover j fn mask =>
      by_cases hj : j = i
      · obtain rfl : .onRecover fn = step := by simpa [stepAt, hj] using hat
        simp [FaultStep.isOnFault]
      · simp [stepAt, hj] at hat
  | idle j =>
      by_cases hj : j = i
      · obtain rfl : .idle = step := by simpa [stepAt, hj] using hat
        simp [FaultStep.isOnFault]
      · simp [stepAt, hj] at hat
  | _ => simp [stepAt] at hat

/-- A recovery, once, from a round under way. -/
theorem rounds_recover {cfg : FaultConfig} (h : Rounds (faultRound cfg) [.onFault cfg.onFault]
    (steps i t)) (hE : steps i E = recoverSteps cfg) :
    Rounds (faultRound cfg) [] (steps i (t ++ E)) := by
  rw [steps_append, hE]
  exact h.finish rfl

/-- **A callback keeps the turns.** -/
theorem TakesTurns.spared (h : TakesTurns flat i f t) (hs : Spared d i f f' E)
    (hd : flat → d ≤ 1) : TakesTurns flat i f' (t ++ E) where
  turns := h.turns.append_quiet hs.silent
  away := by
    rw [since_append_quiet hs.silent, ← h.away]
    rcases hs.outcome with ⟨hstate, hsteps⟩ | ⟨hactive, hidle, hmem, _⟩
    · rw [hstate]
      exact ⟨fun hne => ⟨hne, fun e he => (no_step hsteps e he).2⟩, fun hne => hne.1⟩
    · rw [hidle]
      exact iff_of_false (fun hne => hne rfl) fun hne => hne.2 _ hmem rfl
  count := by
    rw [hs.count, h.count, onFaults_append, onFaults_silent hs.silent, Nat.add_zero]
  history := by
    rw [since_append_quiet hs.silent, ← h.history]
    exact hs.history
  rounds := by
    intro hflat
    have hrounds := h.rounds hflat
    rw [hs.cfg]
    rcases hs.outcome with ⟨hstate, hsteps⟩ | ⟨hactive, hidle, _, hpos, hone⟩
    · rw [steps_append, hsteps, List.append_nil]
      unfold pending at hrounds ⊢
      rwa [hstate, hs.cfg]
    · unfold pending at hrounds ⊢
      rw [if_neg (by simp [hactive])] at hrounds
      rw [if_pos hidle]
      have := hd hflat
      exact rounds_recover hrounds (hone (by omega))

theorem TakesTurns.recovered (h : TakesTurns flat i f t) (hr : Recovered d i f f' E)
    (hs : f.state = .recovering) : TakesTurns flat i f' (t ++ E) where
  turns := h.turns.append_quiet hr.silent
  away := by
    rw [since_append_quiet hr.silent, hr.state]
    exact iff_of_false (fun hne => hne rfl) fun hne => hne.2 _ hr.idle rfl
  count := by
    rw [hr.count, h.count, onFaults_append, onFaults_silent hr.silent, Nat.add_zero]
  history := by
    rw [since_append_quiet hr.silent, ← h.history]
    exact hr.history
  rounds := by
    intro hflat
    have hrounds := h.rounds hflat
    unfold pending at hrounds ⊢
    rw [if_neg (by simp [hs])] at hrounds
    rw [hr.cfg, if_pos hr.state]
    exact rounds_recover hrounds (hr.once (Or.inl (by simp [hs])))

theorem TakesTurns.triggered (h : TakesTurns flat i f t) (ht : Triggered i f f' E)
    (hs : f.state = .idle) : TakesTurns flat i f' (t ++ E) := by
  obtain ⟨E', rfl, hsteps, hflag⟩ := ht.events
  have hquiet := no_step hsteps
  have honFault : IsOnFault i (.onFault i f.cfg.onFault) := ⟨_, rfl⟩
  have hbefore : ¬ Since (IsOnFault i) (· = .idle i) t := fun hsince => h.away.mpr hsince hs
  rw [← List.singleton_append, ← List.append_assoc]
  refine ⟨?_, ?_, ?_, ?_, fun hflat => ?_⟩
  · have hturn := (alternates_snoc (.onFault i f.cfg.onFault)).mpr ⟨h.turns, fun _ => hbefore⟩
    exact hturn.append_quiet fun e he => (hquiet e he).1
  · rw [since_append_quiet fun e he => (hquiet e he).1]
    exact iff_of_true ht.away
      ⟨(since_snoc _).mpr (Or.inl honFault), fun e he => (hquiet e he).2⟩
  · rw [ht.count, h.count, onFaults_append, onFaults_append,
      onFaults_silent fun e he => (hquiet e he).1, Nat.add_zero, UInt32.ofNat_add]
    have hone : onFaults i [.onFault i f.cfg.onFault] = 1 := by
      simp [onFaults, steps, stepAt, FaultStep.isOnFault]
    rw [hone]
    rfl
  · rw [since_append_quiet fun e he => (hquiet e he).1, hflag]
    exact ⟨fun hc => ⟨(since_snoc _).mpr (Or.inl honFault), hc⟩, fun hc => hc.2⟩
  · have hrounds := h.rounds hflat
    unfold pending at hrounds ⊢
    rw [if_pos hs] at hrounds
    rw [if_neg ht.away, ht.cfg, steps_append, hsteps, List.append_nil, steps_append]
    have hstep : steps i [.onFault i f.cfg.onFault] = [.onFault f.cfg.onFault] := by
      simp [steps, stepAt]
    rw [hstep]
    exact hrounds.start _

/-! ## Runs -/

/-- Between outermost calls, and between the visits of an update. -/
structure TurnsOk (flat : Prop) (w : FaultWorld n) : Prop where
  registered : ∀ i : Fin n, i.val < w.sys.faultCount → TakesTurns flat i (w.fault i) w.trace
  beyond : ∀ i : Fin n, w.sys.faultCount ≤ i.val → steps i w.trace = []
  handles : HandlesOk w

/-- A fault that is new has nothing behind it. -/
theorem Blank.takesTurns (h : Blank f) (ht : steps i t = []) : TakesTurns flat i f t := by
  have hnone : ∀ q, ¬ Since (IsOnFault i) q t := by
    intro q hs
    obtain ⟨e, he, hon⟩ := hs.exists
    exact (no_step ht e he).1 hon
  refine ⟨?_, iff_of_false (fun hne => hne h.state) (hnone _), ?_,
    iff_of_false (by simp [h.history]) (hnone _), fun _ => ?_⟩
  · have hnil : Alternates (IsOnFault i) (· = .idle i) [] := alternates_nil
    exact hnil.append_quiet fun e he => (no_step ht e he).1
  · rw [h.count, onFaults, ht]
    rfl
  · rw [ht, pending, if_pos h.state]
    exact rounds_nil _

/-- What keeps the turns of each fault keeps them of all. -/
theorem TurnsOk.passes {R : Fin n → Fault → Fault → List (FaultEvent n) → Prop}
    (hw : TurnsOk flat w) (h : Passes R w w' E)
    (hR : ∀ j : Fin n, j.val < w.sys.faultCount → R j (w.fault j) (w'.fault j) E →
      TakesTurns flat j (w.fault j) w.trace → TakesTurns flat j (w'.fault j) (w.trace ++ E)) :
    TurnsOk flat w' where
  registered := by
    intro i hi
    rw [h.trace]
    by_cases hold : i.val < w.sys.faultCount
    · exact hR i hold (h.each i hold) (hw.registered i hold)
    · have hold := Nat.le_of_not_lt hold
      refine (h.fresh i hold hi).takesTurns ?_
      rw [steps_append, hw.beyond i hold, h.beyond i hold]
      rfl
  beyond := by
    intro i hi
    have hold := Nat.le_trans h.count hi
    rw [h.trace, steps_append, hw.beyond i hold, h.beyond i hold]
    rfl
  handles := h.handles

theorem TurnsOk.within (hw : TurnsOk flat w) (h : Within d w w' E) (hd : flat → d ≤ 1) :
    TurnsOk flat w' :=
  hw.passes h fun _ _ hs ht => ht.spared hs hd

/-- A visit to an idle fault. -/
theorem faultUpdateIdle_turns {c : Nat} {detect onFault : FaultWorld n → FaultWorld n}
    (hd : Depth c detect) (ha : Depth d onFault) (hflat : flat → c ≤ 1 ∧ d ≤ 1) (now : UInt64)
    (result : Bool) (hw : TurnsOk flat w) (hi : i.val < w.sys.faultCount)
    (hs : (w.fault i).state = .idle) :
    TurnsOk flat (faultUpdateIdle w i now detect result onFault) := by
  obtain ⟨E₁, h₁⟩ := callDetect_within hd hw.handles i result
  have hw₁ := hw.within h₁ fun hf => (hflat hf).1
  have hs₁ := ((h₁.each i hi).untouched (by simp [hs])).1.trans hs
  unfold faultUpdateIdle
  cases result with
  | false => exact hw₁
  | true =>
      obtain ⟨E₂, h₂⟩ := trigger_passes ha hw₁.handles hs₁ (Nat.lt_of_lt_of_le hi h₁.count)
        "[FAULT] '%s' triggered (#%u)\r\n"
        (fun v => [v.nameArg i, .unsigned (v.fault i).triggerCount]) now
      refine hw₁.passes h₂ fun j _ hpass hturns => ?_
      rcases hpass with ⟨_, hspared⟩ | ⟨rfl, htrigger⟩
      · exact hturns.spared hspared fun hf => (hflat hf).2
      · exact hturns.triggered htrigger hs₁

/-- The timer of a fault has no part in its turns. -/
theorem timer_within (hh : HandlesOk w) (i : Fin n) (timer : Fault → SimpleTimer) :
    Within 0 w (w.modify i fun f => { f with recoveryTimer := timer f }) [] := by
  refine ⟨(List.append_nil _).symm, Nat.le_refl _, fun j _ => ?_, fun _ _ => rfl,
    fun j hj hj' => absurd hj (Nat.not_le_of_lt hj'), hh⟩
  by_cases hji : j = i
  · subst hji
    rw [FaultWorld.modify_self]
    exact spared_of_silent (by simp) rfl rfl rfl rfl
  · rw [FaultWorld.modify_ne w i hji]
    exact spared_of_silent (by simp) rfl rfl rfl rfl

/-- The cooldown goes on. -/
theorem extend_turns (hw : TurnsOk flat w) (i : Fin n) (now : UInt64) (fmt : String)
    (args : List UprintArg) : TurnsOk flat ((w.print fmt args).setupTimer i now) := by
  have h := within_print (d := 0) hw.handles fmt args
  exact (hw.within h fun _ => Nat.zero_le 1).within (timer_within h.handles i fun f =>
    simpleTimerSetup now f.cfg.recoveryMs.toUInt64 false) fun _ => Nat.zero_le 1

/-- The cooldown is over. -/
theorem recover_turns {onRecover : FaultWorld n → FaultWorld n} (hr : Depth d onRecover)
    (hflat : flat → d ≤ 1) (hw : TurnsOk flat w) (hi : i.val < w.sys.faultCount)
    (hs : (w.fault i).state = .recovering) (fmt : String) (args : List UprintArg) :
    TurnsOk flat ((((w.print fmt args).maskClearActive i).callOnRecover i onRecover).toIdle i) := by
  have h : Within 0 w ((w.print fmt args).maskClearActive i) [.uprint ⟨fmt, args⟩] :=
    within_of_same hw.handles rfl rfl rfl rfl (by simp [stepAt, Clears])
  have hw' := hw.within h fun _ => Nat.zero_le 1
  obtain ⟨E, hpass⟩ := recover_passes (i := i) hr hw'.handles hi
  refine hw'.passes hpass fun j _ hat hturns => ?_
  rcases hat with ⟨_, hspared⟩ | ⟨rfl, hrecovered⟩
  · exact hturns.spared hspared hflat
  · exact hturns.recovered hrecovered hs

/-- A visit to a fault that is recovering. -/
theorem faultUpdateRecovering_turns {c : Nat} {detect onRecover : FaultWorld n → FaultWorld n}
    (hd : Depth c detect) (ha : Depth d onRecover) (hflat : flat → c ≤ 1 ∧ d ≤ 1)
    (elapsedNow now : UInt64) (result : Bool) (hw : TurnsOk flat w)
    (hi : i.val < w.sys.faultCount) (hs : (w.fault i).state = .recovering) :
    TurnsOk flat (faultUpdateRecovering w i elapsedNow now detect result onRecover) := by
  have h₁ := timer_within hw.handles i
    fun _ => (simpleTimerHasElapsed (w.fault i).recoveryTimer elapsedNow).2
  have hw₁ := hw.within h₁ fun _ => Nat.zero_le 1
  unfold faultUpdateRecovering
  dsimp only
  split
  · obtain ⟨E₂, h₂⟩ := callDetect_within hd hw₁.handles i result
    have hw₂ := hw₁.within h₂ fun hf => (hflat hf).1
    cases result with
    | true => exact extend_turns hw₂ i now _ _
    | false =>
        have hs₁ := ((h₁.each i hi).untouched (by simp [hs])).1.trans hs
        have hs₂ := ((h₂.each i (Nat.lt_of_lt_of_le hi h₁.count)).untouched (by rw [hs₁]; simp)).1
        exact recover_turns ha (fun hf => (hflat hf).2) hw₂
          (Nat.lt_of_lt_of_le hi (Nat.le_trans h₁.count h₂.count)) (hs₂.trans hs₁) _ _
  · exact hw₁

theorem faultUpdateSlot_turns {c : Nat} {detect action : FaultWorld n → FaultWorld n}
    (hd : Depth c detect) (ha : Depth d action) (hflat : flat → c ≤ 1 ∧ d ≤ 1)
    (elapsedNow now : UInt64) (result : Bool) (hw : TurnsOk flat w)
    (hi : i.val < w.sys.faultCount) :
    TurnsOk flat (faultUpdateSlot w i elapsedNow now detect result action) := by
  unfold faultUpdateSlot
  split
  · exact hw
  · cases hs : (w.fault i).state with
    | idle => exact faultUpdateIdle_turns hd ha hflat now result hw hi hs
    | active => exact hw
    | recovering => exact faultUpdateRecovering_turns hd ha hflat elapsedNow now result hw hi hs

/-- No clear of the call is called from inside a clear. -/
def Unnested : FaultOp n → Prop
  | .update env => ∀ i, clearDepth (env i).detect ≤ 1 ∧ clearDepth (env i).action ≤ 1
  | .clear _ detect _ onRecover => clearDepth detect = 0 ∧ clearDepth onRecover = 0
  | _ => True

theorem faultUpdateLoop_turns {env : Fin n → SlotEnv}
    (hflat : flat → ∀ i, clearDepth (env i).detect ≤ 1 ∧ clearDepth (env i).action ≤ 1)
    (is : List (Fin n)) (hw : TurnsOk flat w) : TurnsOk flat (faultUpdateLoop env is w) := by
  induction is generalizing w with
  | nil => exact hw
  | cons i is ih =>
      rw [faultUpdateLoop]
      split
      · rename_i hi
        exact ih (faultUpdateSlot_turns (runScript_depth _) (runScript_depth _)
          (fun hf => hflat hf i) _ _ _ hw hi)
      · exact hw

theorem faultCall_turns (hw : TurnsOk flat w) (op : FaultOp n) (hflat : flat → Unnested op) :
    TurnsOk flat (faultCall w op) := by
  cases op with
  | register config => exact hw.within (register_within config hw.handles) fun _ => Nat.zero_le 1
  | update env => exact faultUpdateLoop_turns hflat (List.finRange n) hw
  | clear k detect result onRecover =>
      obtain ⟨E, h⟩ := faultClear_within (runScript_depth detect) (runScript_depth onRecover)
        result hw.handles (handle_registered hw.handles (k := k))
      refine hw.within h fun hf => ?_
      obtain ⟨hdetect, honRecover⟩ := hflat hf
      rw [hdetect, honRecover]
      decide
  | historyClear k =>
      obtain ⟨E, h⟩ := historyClear_within hw.handles (w.handle k)
      exact hw.within h fun _ => Nat.zero_le 1
  | historyClearAll =>
      exact hw.within (historyClearAll_within hw.handles) fun _ => Nat.zero_le 1

theorem turnsOk_init (flat : Prop) (n : Nat) : TurnsOk flat (FaultWorld.init n) where
  registered := fun i hi => absurd hi (Nat.not_lt_zero i.val)
  beyond := fun _ _ => rfl
  handles := fun _ hi => absurd hi List.not_mem_nil

theorem faultRun_turns (hw : TurnsOk flat w) (ops : List (FaultOp n))
    (hflat : flat → ∀ op ∈ ops, Unnested op) : TurnsOk flat (faultRun w ops) := by
  induction ops generalizing w with
  | nil => exact hw
  | cons op ops ih =>
      have hstep := faultCall_turns hw op fun hf => hflat hf op List.mem_cons_self
      exact ih hstep fun hf op' hop' => hflat hf op' (List.mem_cons_of_mem op hop')

/--
**The protocol under callbacks that call back.**

Whatever the callbacks register, clear and forget, nested to any depth: a fault's `on_fault`
is not called again before the fault has returned to idle, and it is away from idle just if
an `on_fault` is yet to be followed by a return; its counter and its history flag say what
the trace says. If no `fault_clear` is called from inside another, its steps are whole rounds
and the `on_fault` of a round under way, as without such callbacks. A slot that is not
registered has no steps.
-/
theorem fault_reentry (n : Nat) (ops : List (FaultOp n)) (i : Fin n) :
    let w := faultRun (FaultWorld.init n) ops
    let f := w.fault i
    (i.val < w.sys.faultCount →
      Alternates (IsOnFault i) (· = .idle i) w.trace
      ∧ (f.state ≠ .idle ↔ Since (IsOnFault i) (· = .idle i) w.trace)
      ∧ f.triggerCount.toNat = onFaults i w.trace % 2 ^ 32
      ∧ (f.hasEverTriggered = true ↔ Since (IsOnFault i) (Clears i) w.trace)
      ∧ ((∀ op ∈ ops, Unnested op) →
        ∃ k, steps i w.trace = (List.replicate k (faultRound f.cfg)).flatten ++ pending f))
    ∧ (w.sys.faultCount ≤ i.val → steps i w.trace = []) := by
  intro w f
  have hw : TurnsOk (∀ op ∈ ops, Unnested op) w :=
    faultRun_turns (turnsOk_init _ n) ops fun hflat => hflat
  refine ⟨fun hi => ?_, hw.beyond i⟩
  have h := hw.registered i hi
  refine ⟨h.turns, h.away, ?_, h.history, h.rounds⟩
  rw [h.count, UInt32.toNat_ofNat']

end

/-- A latched fault whose `on_recover` clears it again: it is recovered twice. -/
example : steps 0 (faultRun (FaultWorld.init 1)
      [.register (some ⟨none, some 1, some 2, some 3, 0⟩),
        .update fun _ => ⟨0, 0, .done, true, .done⟩,
        .clear 0 .done false (.clear 0 .done false .done .done)]).trace
    = [.onFault (some 2), .onRecover (some 3), .onRecover (some 3), .idle, .idle] := by
  decide

end FwCore.Proof
