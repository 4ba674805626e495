import FwCore.Proof.FaultProtocol

/-!
# What a callback that calls back can do

A callback may clear faults, and the `detect` and `on_recover` of these clears may clear
again. Whatever it does, it triggers nothing: a fault that is not latched passes it
untouched, and a latched one may be found cleared. `Spared` says so, and is transitive, so
a script of any depth is one such passage.

A clear that is called from inside a clear of the same fault, which is
`FAULT_STATE_ACTIVE` until the end, recovers it a second time. `clearDepth` is there to
tell when that cannot happen.
-/

namespace FwCore.Proof

open FwCore Lib

/-- How deep `fault_clear` nests in a script. -/
def clearDepth : Script → Nat
  | .done => 0
  | .clear _ detect _ onRecover rest =>
    max (1 + max (clearDepth detect) (clearDepth onRecover)) (clearDepth rest)
  | .historyClear _ rest => clearDepth rest
  | .historyClearAll rest => clearDepth rest
  | .register _ rest => clearDepth rest

/-- The steps of a recovery. -/
def recoverSteps (cfg : FaultConfig) : List FaultStep :=
  cfg.onRecover.toList.map (fun fn => FaultStep.onRecover (some fn)) ++ [.idle]

section

variable {n : Nat} {i j : Fin n} {d : Nat} {f f' f'' : Fault} {t E E' : List (FaultEvent n)}
  {w w' : FaultWorld n}

/-! ## A fault while a callback runs -/

/-- What fault `j` may go through while a callback runs that nests clears `d` deep. -/
structure Spared (d : Nat) (j : Fin n) (f f' : Fault) (E : List (FaultEvent n)) : Prop where
  cfg : f'.cfg = f.cfg
  count : f'.triggerCount = f.triggerCount
  history : f'.hasEverTriggered = true ↔ f.hasEverTriggered = true ∧ ∀ e ∈ E, ¬ Clears j e
  /-- Nothing triggers. -/
  silent : ∀ e ∈ E, ¬ IsOnFault j e
  /-- It stays as it is, or it was latched and is cleared. -/
  outcome : (f'.state = f.state ∧ steps j E = []) ∨ (f.state = .active ∧ f'.state = .idle
    ∧ .idle j ∈ E ∧ 0 < d ∧ (d = 1 → steps j E = recoverSteps f.cfg))

/-- Where a fault takes no step it neither triggers nor returns. -/
theorem no_step (h : steps j E = []) : ∀ e ∈ E, ¬ IsOnFault j e ∧ e ≠ .idle j := by
  intro e he
  have hnone := List.filterMap_eq_nil_iff.mp h e he
  constructor
  · rintro ⟨fn, rfl⟩
    simp [stepAt] at hnone
  · rintro rfl
    simp [stepAt] at hnone

/-- Events that do not concern the fault. -/
theorem spared_of_silent (h : ∀ e ∈ E, stepAt j e = none ∧ ¬ Clears j e)
    (hcfg : f'.cfg = f.cfg) (hcount : f'.triggerCount = f.triggerCount)
    (hflag : f'.hasEverTriggered = f.hasEverTriggered) (hstate : f'.state = f.state) :
    Spared d j f f' E where
  cfg := hcfg
  count := hcount
  history := by
    rw [hflag]
    exact ⟨fun hf => ⟨hf, fun e he => (h e he).2⟩, fun hf => hf.1⟩
  silent := fun e he => (no_step (steps_eq_nil fun x hx => (h x hx).1) e he).1
  outcome := Or.inl ⟨hstate, steps_eq_nil fun x hx => (h x hx).1⟩

theorem Spared.mono {d' : Nat} (h : Spared d j f f' E) (hd : d ≤ d') : Spared d' j f f' E := by
  refine ⟨h.cfg, h.count, h.history, h.silent, ?_⟩
  rcases h.outcome with hstay | ⟨ha, hi, hmem, hpos, hone⟩
  · exact Or.inl hstay
  · refine Or.inr ⟨ha, hi, hmem, Nat.lt_of_lt_of_le hpos hd, fun hd' => hone ?_⟩
    omega

/-- **One callback after the other.** -/
theorem Spared.trans (h : Spared d j f f' E) (h' : Spared d j f' f'' E') :
    Spared d j f f'' (E ++ E') where
  cfg := h'.cfg.trans h.cfg
  count := h'.count.trans h.count
  history := by
    rw [h'.history, h.history, List.forall_mem_append, and_assoc]
  silent := List.forall_mem_append.mpr ⟨h.silent, h'.silent⟩
  outcome := by
    rw [steps_append]
    rcases h.outcome with ⟨hs, hsteps⟩ | ⟨ha, hi, hmem, hpos, hone⟩
    · rw [hsteps, List.nil_append, ← hs, ← h.cfg]
      rcases h'.outcome with hstay | ⟨ha', hi', hmem', hrest⟩
      · exact Or.inl hstay
      · exact Or.inr ⟨ha', hi', List.mem_append_right E hmem', hrest⟩
    · -- a fault that is cleared is out of reach for the second
      rcases h'.outcome with ⟨hs', hsteps'⟩ | ⟨ha', _⟩
      · rw [hsteps', List.append_nil]
        exact Or.inr ⟨ha, hs'.trans hi, List.mem_append_left E' hmem, hpos, hone⟩
      · rw [hi] at ha'
        cases ha'

/-- A fault that is not latched is left alone. -/
theorem Spared.untouched (h : Spared d j f f' E) (hs : f.state ≠ .active) :
    f'.state = f.state ∧ steps j E = [] := by
  rcases h.outcome with hstay | ⟨ha, _⟩
  · exact hstay
  · exact absurd ha hs

/-! ## The registry while a callback runs -/

/-- A fault that has just been registered. -/
structure Blank (f : Fault) : Prop where
  state : f.state = .idle
  count : f.triggerCount = 0
  history : f.hasEverTriggered = false

/-- A callback does nothing to it. -/
theorem Blank.spared (h : Blank f) (hs : Spared d j f f' E) : Blank f' where
  state := by
    have hidle : f.state ≠ .active := by
      rw [h.state]
      simp
    exact (hs.untouched hidle).1.trans h.state
  count := hs.count.trans h.count
  history := by
    refine Bool.eq_false_iff.mpr fun hf => ?_
    rw [hs.history, h.history] at hf
    exact absurd hf.1 (by simp)

/-- Every handle is of a registered fault. -/
def HandlesOk (w : FaultWorld n) : Prop := ∀ i, some i ∈ w.handles → i.val < w.sys.faultCount

/-- From `w` to `w'` each registered fault went through `R`, with the events `E`. -/
structure Passes (R : Fin n → Fault → Fault → List (FaultEvent n) → Prop) (w w' : FaultWorld n)
    (E : List (FaultEvent n)) : Prop where
  trace : w'.trace = w.trace ++ E
  count : w.sys.faultCount ≤ w'.sys.faultCount
  each : ∀ j : Fin n, j.val < w.sys.faultCount → R j (w.fault j) (w'.fault j) E
  beyond : ∀ j : Fin n, w.sys.faultCount ≤ j.val → steps j E = []
  /-- Faults registered meanwhile. -/
  fresh : ∀ j : Fin n, w.sys.faultCount ≤ j.val → j.val < w'.sys.faultCount → Blank (w'.fault j)
  handles : HandlesOk w'

/-- A callback has run. -/
abbrev Within (d : Nat) : FaultWorld n → FaultWorld n → List (FaultEvent n) → Prop :=
  Passes (Spared d)

theorem Within.mono {d' : Nat} (h : Within d w w' E) (hd : d ≤ d') : Within d' w w' E :=
  ⟨h.trace, h.count, fun j hj => (h.each j hj).mono hd, h.beyond, h.fresh, h.handles⟩

/-- A callback, and then something that does no more than one to the faults new to both. -/
theorem Within.before {R R' : Fin n → Fault → Fault → List (FaultEvent n) → Prop} {c : Nat}
    {w₁ w₂ w₃ : FaultWorld n} (h : Within d w₁ w₂ E) (h' : Passes R w₂ w₃ E')
    (hfar : ∀ j : Fin n, w₁.sys.faultCount ≤ j.val → ∀ f f' E, R j f f' E → Spared c j f f' E)
    (hnear : ∀ j : Fin n, j.val < w₁.sys.faultCount → Spared d j (w₁.fault j) (w₂.fault j) E →
      R j (w₂.fault j) (w₃.fault j) E' → R' j (w₁.fault j) (w₃.fault j) (E ++ E')) :
    Passes R' w₁ w₃ (E ++ E') where
  trace := by rw [h'.trace, h.trace, List.append_assoc]
  count := Nat.le_trans h.count h'.count
  each := fun j hj => hnear j hj (h.each j hj) (h'.each j (Nat.lt_of_lt_of_le hj h.count))
  beyond := by
    intro j hj
    rw [steps_append, h.beyond j hj, List.nil_append]
    by_cases hnew : j.val < w₂.sys.faultCount
    · -- registered by the first, and idle, so the second does nothing to it
      have hblank := h.fresh j hj hnew
      exact ((hfar j hj _ _ _ (h'.each j hnew)).untouched (by rw [hblank.state]; simp)).2
    · exact h'.beyond j (Nat.le_of_not_lt hnew)
  fresh := by
    intro j hj hj'
    by_cases hnew : j.val < w₂.sys.faultCount
    · exact (h.fresh j hj hnew).spared (hfar j hj _ _ _ (h'.each j hnew))
    · exact h'.fresh j (Nat.le_of_not_lt hnew) hj'
  handles := h'.handles

/-- **One callback after the other.** -/
theorem Within.trans {w₁ w₂ w₃ : FaultWorld n} (h : Within d w₁ w₂ E) (h' : Within d w₂ w₃ E') :
    Within d w₁ w₃ (E ++ E') :=
  h.before h' (fun _ _ _ _ _ hs => hs) fun _ _ hs hs' => hs.trans hs'

/-- Nothing but events that concern no fault, and the masks. -/
theorem within_of_same (hh : HandlesOk w) (htrace : w'.trace = w.trace ++ E)
    (hfault : w'.fault = w.fault) (hcount : w'.sys.faultCount = w.sys.faultCount)
    (hhandles : w'.handles = w.handles) (hE : ∀ j, ∀ e ∈ E, stepAt j e = none ∧ ¬ Clears j e) :
    Within d w w' E where
  trace := htrace
  count := Nat.le_of_eq hcount.symm
  each := by
    intro j _
    rw [hfault]
    exact spared_of_silent (hE j) rfl rfl rfl rfl
  beyond := fun j _ => steps_eq_nil fun e he => (hE j e he).1
  fresh := by
    intro j hj hj'
    rw [hcount] at hj'
    omega
  handles := by
    unfold HandlesOk
    rw [hhandles, hcount]
    exact hh

theorem within_refl (hh : HandlesOk w) : Within d w w [] :=
  within_of_same hh (List.append_nil _).symm rfl rfl rfl (by simp)

theorem within_emit (hh : HandlesOk w) {e : FaultEvent n}
    (he : ∀ j, stepAt j e = none ∧ ¬ Clears j e) : Within d w (w.emit e) [e] :=
  within_of_same hh rfl rfl rfl rfl (by simpa using he)

theorem within_print (hh : HandlesOk w) (fmt : String) (args : List UprintArg) :
    Within d w (w.print fmt args) [.uprint ⟨fmt, args⟩] :=
  within_emit hh fun _ => ⟨rfl, id⟩

/-! ## `fault_clear`, whatever its callbacks do -/

/-- What a callback of depth `d` may do, as a function on worlds. -/
def Depth (d : Nat) (body : FaultWorld n → FaultWorld n) : Prop :=
  ∀ w, HandlesOk w → ∃ E, Within d w (body w) E

theorem callDetect_within {body : FaultWorld n → FaultWorld n} (hb : Depth d body)
    (hh : HandlesOk w) (i : Fin n) (result : Bool) :
    ∃ E, Within d w (w.callDetect i body result) E := by
  obtain ⟨E, h⟩ := hb w hh
  refine ⟨_, h.trans (within_emit h.handles fun j => ?_)⟩
  simp [stepAt, Clears]

/-- The call of `on_recover`, as the event it is and what it does. -/
theorem callOnRecover_within {body : FaultWorld n → FaultWorld n} (hb : Depth d body)
    (hh : HandlesOk w) (i : Fin n) : ∃ v E, v.sys = w.sys ∧ v.handles = w.handles
      ∧ v.trace = w.trace ++ (w.fault i).cfg.onRecover.toList.map
        (fun fn => .onRecover i (some fn) w.sys.activeMask)
      ∧ Within d v (w.callOnRecover i body) E := by
  unfold FaultWorld.callOnRecover
  cases (w.fault i).cfg.onRecover with
  | none => exact ⟨w, [], rfl, rfl, (List.append_nil _).symm, within_refl hh⟩
  | some fn =>
      obtain ⟨E, h⟩ := hb (w.emit (.onRecover i (some fn) w.sys.activeMask)) hh
      exact ⟨w.emit (.onRecover i (some fn) w.sys.activeMask), E, rfl, rfl, rfl, h⟩

/-- The events of `on_recover` are of one fault. -/
theorem onRecover_events (i : Fin n) (rec : Option FnPtr) (mask : BitVec 32) :
    ∀ e ∈ rec.toList.map (fun fn => FaultEvent.onRecover i (some fn) mask),
      (¬ IsOnFault j e ∧ ¬ Clears j e) ∧ (j ≠ i → stepAt j e = none) := by
  cases rec with
  | none => simp
  | some fn =>
      intro e he
      obtain rfl : e = .onRecover i fn mask := by simpa using he
      refine ⟨by simp [IsOnFault, Clears], fun hj => ?_⟩
      simp [stepAt, Ne.symm hj]

theorem onRecover_steps (i : Fin n) (rec : Option FnPtr) (mask : BitVec 32) :
    steps i (rec.toList.map fun fn => FaultEvent.onRecover i (some fn) mask)
      = rec.toList.map (fun fn => FaultStep.onRecover (some fn)) := by
  cases rec with
  | none => rfl
  | some fn => simp [steps, stepAt]

/-- Fault `i` is recovered: `on_recover` is called, and then the fault is idle. -/
structure Recovered (d : Nat) (i : Fin n) (f f' : Fault) (E : List (FaultEvent n)) : Prop where
  cfg : f'.cfg = f.cfg
  count : f'.triggerCount = f.triggerCount
  history : f'.hasEverTriggered = true ↔ f.hasEverTriggered = true ∧ ∀ e ∈ E, ¬ Clears i e
  silent : ∀ e ∈ E, ¬ IsOnFault i e
  state : f'.state = .idle
  idle : .idle i ∈ E
  /-- Unless it is cleared by the way, it is recovered once. -/
  once : f.state ≠ .active ∨ d = 0 → steps i E = recoverSteps f.cfg

/-- Fault `i` is recovered, and the others go through what `on_recover` does. -/
abbrev RecoversAt (d : Nat) (i j : Fin n) (f f' : Fault) (E : List (FaultEvent n)) : Prop :=
  (j ≠ i ∧ Spared d j f f' E) ∨ (j = i ∧ Recovered d i f f' E)

theorem recover_passes {body : FaultWorld n → FaultWorld n} (hb : Depth d body)
    (hh : HandlesOk w) (hi : i.val < w.sys.faultCount) :
    ∃ E, Passes (RecoversAt d i) w ((w.callOnRecover i body).toIdle i) E := by
  obtain ⟨v, E, hsys, hhandles, htrace, h⟩ := callOnRecover_within hb hh i
  have hfault : v.fault = w.fault := by
    unfold FaultWorld.fault
    rw [hsys]
  have hcount : v.sys.faultCount = w.sys.faultCount := by rw [hsys]
  obtain ⟨R, hR⟩ : ∃ R, R = (w.fault i).cfg.onRecover.toList.map
      (fun fn => FaultEvent.onRecover i (some fn) w.sys.activeMask) := ⟨_, rfl⟩
  have hev : ∀ j, ∀ e ∈ R, (¬ IsOnFault j e ∧ ¬ Clears j e) ∧ (j ≠ i → stepAt j e = none) := by
    rw [hR]
    exact fun j => onRecover_events i _ _
  rw [← hR] at htrace
  have hne : ∀ j, j ≠ i → ((w.callOnRecover i body).toIdle i).fault j
      = (w.callOnRecover i body).fault j :=
    fun j hj =>
      FaultWorld.modify_ne (w.callOnRecover i body) i hj fun f => { f with state := .idle }
  have hat : ((w.callOnRecover i body).toIdle i).fault i
      = { (w.callOnRecover i body).fault i with state := .idle } :=
    FaultWorld.modify_self (w.callOnRecover i body) i fun f => { f with state := .idle }
  refine ⟨R ++ E ++ [.idle i], ?_, ?_, fun j hj => ?_, fun j hj => ?_, fun j hj hj' => ?_,
    h.handles⟩
  · show (w.callOnRecover i body).trace ++ [.idle i] = _
    rw [h.trace, htrace]
    simp only [List.append_assoc]
  · rw [← hcount]
    exact h.count
  · have hduring := h.each j (by rw [hcount]; exact hj)
    rw [hfault] at hduring
    by_cases hji : j = i
    · subst hji
      rw [hat]
      refine Or.inr ⟨rfl, hduring.cfg, hduring.count, ?_, ?_, rfl, by simp, fun hone => ?_⟩
      · rw [List.forall_mem_append, List.forall_mem_append]
        refine hduring.history.trans (and_congr_right fun _ => ?_)
        exact ⟨fun hc => ⟨⟨fun e he => (hev j e he).1.2, hc⟩, by simp [Clears]⟩, fun hc => hc.1.2⟩
      · rw [List.forall_mem_append, List.forall_mem_append]
        exact ⟨⟨fun e he => (hev j e he).1.1, hduring.silent⟩, by simp [IsOnFault]⟩
      · have hquiet : steps j E = [] := by
          rcases hduring.outcome with ⟨_, hsteps⟩ | ⟨ha, _, _, hpos, _⟩
          · exact hsteps
          · rcases hone with hne | rfl
            · exact absurd ha hne
            · exact absurd hpos (Nat.lt_irrefl 0)
        rw [steps_append, steps_append, hquiet, List.append_nil, hR, onRecover_steps]
        simp [recoverSteps, steps, stepAt]
    · have hbefore : Spared d j (w.fault j) (w.fault j) R :=
        spared_of_silent (fun e he => ⟨(hev j e he).2 hji, (hev j e he).1.2⟩) rfl rfl rfl rfl
      have hafter : Spared d j ((w.callOnRecover i body).fault j)
          ((w.callOnRecover i body).fault j) [.idle i] :=
        spared_of_silent (by simp [stepAt, Clears, Ne.symm hji]) rfl rfl rfl rfl
      rw [hne j hji]
      exact Or.inl ⟨hji, (hbefore.trans hduring).trans hafter⟩
  · have hji : j ≠ i := fun he => by rw [he] at hj; omega
    rw [steps_append, steps_append, h.beyond j (by rw [hcount]; exact hj),
      steps_eq_nil fun e he => (hev j e he).2 hji]
    simp [steps, stepAt, Ne.symm hji]
  · have hji : j ≠ i := fun he => by rw [he] at hj; omega
    rw [hne j hji]
    exact h.fresh j (by rw [hcount]; exact hj) hj'

/-- **A recovery inside a clear**: the fault was latched, so it is spared, whatever happened
before. -/
theorem Spared.recovered {c : Nat} (h : Spared c i f f' E) (ha : f.state = .active)
    (h' : Recovered d i f' f'' E') : Spared (1 + max c d) i f f'' (E ++ E') where
  cfg := h'.cfg.trans h.cfg
  count := h'.count.trans h.count
  history := by
    rw [h'.history, h.history, List.forall_mem_append, and_assoc]
  silent := List.forall_mem_append.mpr ⟨h.silent, h'.silent⟩
  outcome := by
    refine Or.inr ⟨ha, h'.state, List.mem_append_right E h'.idle, by omega, fun hone => ?_⟩
    -- nothing is nested: neither callback clears
    rcases h.outcome with ⟨_, hsteps⟩ | ⟨_, _, _, hpos, _⟩
    · rw [steps_append, hsteps, List.nil_append, ← h.cfg]
      exact h'.once (Or.inr (by omega))
    · omega

/-- A callback, and then the recovery of a fault that was latched before it. -/
theorem Within.recovered {c : Nat} {w₁ w₂ w₃ : FaultWorld n} (h : Within c w₁ w₂ E)
    (h' : Passes (RecoversAt d i) w₂ w₃ E') (hi : i.val < w₁.sys.faultCount)
    (ha : (w₁.fault i).state = .active) : Within (1 + max c d) w₁ w₃ (E ++ E') := by
  refine h.before (c := d) h' (fun j hj f f' E hr => ?_) fun j _ hs hr => ?_
  · rcases hr with ⟨_, hs⟩ | ⟨rfl, _⟩
    · exact hs
    · omega
  · rcases hr with ⟨_, hs'⟩ | ⟨rfl, hr⟩
    · exact (hs.mono (by omega)).trans (hs'.mono (by omega))
    · exact hs.recovered ha hr

theorem faultClear_within {c : Nat} {handle : Option (Fin n)}
    {detect onRecover : FaultWorld n → FaultWorld n} (hd : Depth c detect)
    (hr : Depth d onRecover) (result : Bool) (hh : HandlesOk w)
    (hi : ∀ i, handle = some i → i.val < w.sys.faultCount) :
    ∃ E, Within (1 + max c d) w (faultClear w handle detect result onRecover) E := by
  cases handle with
  | none => exact ⟨[], within_refl hh⟩
  | some i =>
      unfold faultClear
      dsimp only
      by_cases ha : (w.fault i).state = .active
      · rw [if_neg (by simp [ha])]
        obtain ⟨E₁, h₁⟩ := callDetect_within hd hh i result
        cases result with
        | true =>
            have h₂ := h₁.trans (within_print h₁.handles
              "[FAULT] '%s' clear ignored — condition still active\r\n"
              [(w.callDetect i detect true).nameArg i])
            exact ⟨_, h₂.mono (by omega)⟩
        | false =>
            have h₂ := h₁.trans (within_print h₁.handles "[FAULT] '%s' cleared manually\r\n"
              [(w.callDetect i detect false).nameArg i])
            obtain ⟨E₂, h₃⟩ := recover_passes hr h₂.handles
              (Nat.lt_of_lt_of_le (hi i rfl) h₂.count)
            -- the mask bit goes before the state does, and no fault sees that
            have h₄ := h₂.recovered h₃ (hi i rfl) ha
            exact ⟨_, h₄.trace, h₄.count, h₄.each, h₄.beyond, h₄.fresh, h₄.handles⟩
      · rw [if_pos ha]
        exact ⟨[], within_refl hh⟩

/-! ## The other calls -/

theorem historyClear_within (hh : HandlesOk w) (handle : Option (Fin n)) :
    ∃ E, Within 0 w (w.historyClear handle) E := by
  cases handle with
  | none => exact ⟨[], within_refl hh⟩
  | some i =>
      have hstep : ∀ j : Fin n, steps j [FaultEvent.historyClear i] = [] := fun _ => rfl
      refine ⟨[.historyClear i], rfl, Nat.le_refl _, fun j _ => ?_, fun j _ => hstep j,
        fun j hj hj' => absurd hj (Nat.not_le_of_lt hj'), hh⟩
      by_cases hji : j = i
      · subst hji
        have hat : (w.historyClear (some j)).fault j
            = { w.fault j with hasEverTriggered := false } :=
          FaultWorld.modify_self w j fun f => { f with hasEverTriggered := false }
        rw [hat]
        refine ⟨rfl, rfl, ?_, by simp [IsOnFault], Or.inl ⟨rfl, hstep j⟩⟩
        simp [Clears]
      · have hne : (w.historyClear (some i)).fault j = w.fault j :=
          FaultWorld.modify_ne w i hji fun f => { f with hasEverTriggered := false }
        rw [hne]
        exact spared_of_silent (by simp [stepAt, Clears, Ne.symm hji]) rfl rfl rfl rfl

theorem historyClearAll_within (hh : HandlesOk w) :
    Within 0 w w.historyClearAll [.historyClearAll] where
  trace := rfl
  count := Nat.le_refl _
  each := by
    intro j hj
    rw [historyClearAll_fault w hj]
    refine ⟨rfl, rfl, ?_, by simp [IsOnFault], Or.inl ⟨rfl, rfl⟩⟩
    simp [Clears]
  beyond := fun _ _ => rfl
  fresh := fun j hj hj' => absurd hj (Nat.not_le_of_lt hj')
  handles := hh

theorem register_within (config : Option FaultConfig) (hh : HandlesOk w) :
    Within 0 w (w.register config) [] := by
  rcases register_cases w config with hr | ⟨c, h, hr⟩
  · rw [hr]
    refine ⟨(List.append_nil _).symm, Nat.le_refl _, fun j _ => ?_, fun _ _ => rfl,
      fun j hj hj' => absurd hj (Nat.not_le_of_lt hj'), registerRefused_handles hh⟩
    exact spared_of_silent (by simp) rfl rfl rfl rfl
  · rw [hr]
    refine ⟨(List.append_nil _).symm, Nat.le_succ _, fun j hj => ?_, fun _ _ => rfl,
      fun j hj hj' => ?_, registerDone_handles c h hh⟩
    · rw [registerDone_old c h (Nat.ne_of_lt hj)]
      exact spared_of_silent (by simp) rfl rfl rfl rfl
    · obtain rfl : j = ⟨w.sys.faultCount, h⟩ := Fin.ext (Nat.le_antisymm (Nat.le_of_lt_succ hj') hj)
      rw [registerDone_new]
      exact ⟨rfl, rfl, rfl⟩

/-- **What a callback is made of does no more than a callback may**, however deep it nests. -/
theorem runScript_depth (script : Script) :
    Depth (clearDepth script) (runScript (n := n) script) := by
  induction script with
  | done => exact fun w hh => ⟨[], within_refl hh⟩
  | clear k detect result onRecover rest ihd ihr ihrest =>
      intro w hh
      obtain ⟨E, h⟩ := faultClear_within ihd ihr result hh (handle_registered hh (k := k))
      obtain ⟨E', h'⟩ := ihrest _ h.handles
      exact ⟨_, (h.mono (Nat.le_max_left _ _)).trans (h'.mono (Nat.le_max_right _ _))⟩
  | historyClear k rest ih =>
      intro w hh
      obtain ⟨E, h⟩ := historyClear_within hh (w.handle k)
      obtain ⟨E', h'⟩ := ih _ h.handles
      exact ⟨_, (h.mono (Nat.zero_le _)).trans h'⟩
  | historyClearAll rest ih =>
      intro w hh
      have h := historyClearAll_within hh
      obtain ⟨E', h'⟩ := ih _ h.handles
      exact ⟨_, (h.mono (Nat.zero_le _)).trans h'⟩
  | register config rest ih =>
      intro w hh
      have h := register_within config hh
      obtain ⟨E', h'⟩ := ih _ h.handles
      exact ⟨_, (h.mono (Nat.zero_le _)).trans h'⟩

end

end FwCore.Proof
