import FwCore.Lib.History
import FwCore.Proof.FaultMasks
import FwCore.Proof.FaultVisits

/-!
# The callback protocol of a fault

With callbacks that do not call back into the fault manager. `Effect` says once what
a visit can do to a fault, and which calls go with it: nothing, a trigger, a return
to idle, or a history clear. Cooldown and `fault_clear` are two ways into the same
effect. Everything the trace says of a fault follows from the four effects.
-/

namespace FwCore.Proof

open FwCore Lib

/-! ## Reading the trace -/

/-- A step of the protocol of one fault, with the function that is called. -/
inductive FaultStep where
  | onFault (fn : Option FnPtr)
  | onRecover (fn : Option FnPtr)
  | idle
deriving DecidableEq, Repr

def FaultStep.isOnFault : FaultStep → Bool
  | .onFault _ => true
  | _ => false

def FaultStep.isIdle : FaultStep → Bool
  | .idle => true
  | _ => false

/-- What a fault goes through from one `IDLE` to the next. -/
def faultRound (cfg : FaultConfig) : List FaultStep :=
  .onFault cfg.onFault
    :: (cfg.onRecover.toList.map (fun fn => FaultStep.onRecover (some fn)) ++ [.idle])

/-- How much of a round a fault has behind it. -/
def pending (f : Fault) : List FaultStep :=
  if f.state = .idle then [] else [.onFault f.cfg.onFault]

section

variable {n : Nat} {i j : Fin n}

/-- The step of fault `i` that an event is. -/
def stepAt (i : Fin n) : FaultEvent n → Option FaultStep
  | .onFault j fn => if j = i then some (.onFault fn) else none
  | .onRecover j fn _ => if j = i then some (.onRecover fn) else none
  | .idle j => if j = i then some .idle else none
  | _ => none

/-- The steps of fault `i`. -/
def steps (i : Fin n) (t : List (FaultEvent n)) : List FaultStep := t.filterMap (stepAt i)

def onFaults (i : Fin n) (t : List (FaultEvent n)) : Nat := (steps i t).countP FaultStep.isOnFault

def idles (i : Fin n) (t : List (FaultEvent n)) : Nat := (steps i t).countP FaultStep.isIdle

/-- The event is a call of fault `i`'s `on_fault`. -/
def IsOnFault (i : Fin n) (e : FaultEvent n) : Prop := ∃ fn, e = .onFault i fn

/-- The event is a history clear that covers fault `i`. -/
def Clears (i : Fin n) : FaultEvent n → Prop
  | .historyClear j => j = i
  | .historyClearAll => True
  | _ => False

/-- Every `on_fault` follows a `detect` that said true, every return to idle one that said false. -/
structure Justified (i : Fin n) (detect : Option FnPtr) (t : List (FaultEvent n)) : Prop where
  onFault : Preceded (IsOnFault i) (fun e => e = .detect i detect true) t
  idle : Preceded (fun e => e = .idle i) (fun e => e = .detect i detect false) t

theorem steps_append (t t' : List (FaultEvent n)) : steps i (t ++ t') = steps i t ++ steps i t' :=
  List.filterMap_append

theorem steps_eq_nil {t : List (FaultEvent n)} (h : ∀ e ∈ t, stepAt i e = none) :
    steps i t = [] :=
  List.filterMap_eq_nil_iff.mpr h

theorem Justified.append {d : Option FnPtr} {t t' : List (FaultEvent n)} (h : Justified i d t)
    (h' : Justified i d t') : Justified i d (t ++ t') :=
  ⟨h.onFault.append h'.onFault, h.idle.append h'.idle⟩

/-- Where nothing happens at a fault, nothing needs a reason. -/
theorem justified_of_steps {d : Option FnPtr} {t : List (FaultEvent n)} (h : steps i t = []) :
    Justified i d t := by
  have hnone := List.filterMap_eq_nil_iff.mp h
  refine ⟨preceded_of_none (fun e he hp => ?_), preceded_of_none (fun e he hp => ?_)⟩
  · obtain ⟨fn, rfl⟩ := hp
    exact absurd (hnone _ he) (by simp [stepAt])
  · subst hp
    exact absurd (hnone _ he) (by simp [stepAt])

/-! ## What a visit does -/

/-- What can happen at fault `i`, with the events that go with it. -/
inductive Effect (i : Fin n) (f : Fault) : Fault → List (FaultEvent n) → Prop where
  | stay (tm : SimpleTimer) (t : List (FaultEvent n))
      (silent : ∀ e ∈ t, stepAt i e = none ∧ ¬ Clears i e) :
      Effect i f { f with recoveryTimer := tm } t
  | trigger (tm : SimpleTimer) (s : FaultState) (call : UprintCall) (idle : f.state = .idle)
      (away : s ≠ .idle) :
      Effect i f { f with
          state := s
          recoveryTimer := tm
          triggerCount := f.triggerCount + 1
          hasEverTriggered := true }
        [.detect i f.cfg.detect true, .onFault i f.cfg.onFault, .uprint call]
  | recover (tm : SimpleTimer) (call : UprintCall) (mask : BitVec 32) (away : f.state ≠ .idle) :
      Effect i f { f with state := .idle, recoveryTimer := tm }
        ([.detect i f.cfg.detect false, .uprint call]
          ++ f.cfg.onRecover.toList.map (fun fn => .onRecover i (some fn) mask) ++ [.idle i])
  | forget (e : FaultEvent n) (clears : Clears i e) :
      Effect i f { f with hasEverTriggered := false } [e]

/-- What the trace says of a fault, and the fault of the trace. -/
structure Protocol (i : Fin n) (f : Fault) (t : List (FaultEvent n)) : Prop where
  /-- Rounds follow one another, and the last may be under way. -/
  rounds : Rounds (faultRound f.cfg) (pending f) (steps i t)
  /-- `trigger_count` is the number of `on_fault` calls, modulo `2 ^ 32`. -/
  count : f.triggerCount = UInt32.ofNat (onFaults i t)
  /-- `has_ever_triggered` says whether `on_fault` was called since the history was cleared. -/
  history : f.hasEverTriggered = true ↔ Since (IsOnFault i) (Clears i) t

variable {f f' : Fault} {t : List (FaultEvent n)} {E : List (FaultEvent n)}

theorem onFaults_append (t t' : List (FaultEvent n)) :
    onFaults i (t ++ t') = onFaults i t + onFaults i t' := by
  rw [onFaults, steps_append, List.countP_append]
  rfl

theorem Effect.cfg (h : Effect i f f' E) : f'.cfg = f.cfg := by
  cases h <;> rfl

/-- The steps of a recovery. -/
theorem recover_steps (d : Option FnPtr) (call : UprintCall) (rec : Option FnPtr)
    (mask : BitVec 32) :
    steps i ([.detect i d false, .uprint call]
        ++ rec.toList.map (fun fn => .onRecover i (some fn) mask) ++ [.idle i])
      = rec.toList.map (fun fn => FaultStep.onRecover (some fn)) ++ [.idle] := by
  cases rec with
  | none => simp [steps, List.filterMap_cons, stepAt]
  | some fn => simp [steps, List.filterMap_cons, stepAt]

theorem recover_silent (d : Option FnPtr) (call : UprintCall) (rec : Option FnPtr)
    (mask : BitVec 32) :
    ∀ e ∈ ([.detect i d false, .uprint call]
        ++ rec.toList.map (fun fn => .onRecover i (some fn) mask)
        ++ [.idle i] : List (FaultEvent n)),
      ¬ IsOnFault j e ∧ ¬ Clears j e := by
  cases rec with
  | none => simp [IsOnFault, Clears]
  | some fn => simp [IsOnFault, Clears]

/-- Events in which the fault takes no step. -/
theorem Protocol.idle_events (hp : Protocol i f t) (hsteps : steps i E = []) :
    Rounds (faultRound f.cfg) (pending f) (steps i (t ++ E))
      ∧ f.triggerCount = UInt32.ofNat (onFaults i (t ++ E)) := by
  constructor
  · rw [steps_append, hsteps, List.append_nil]
    exact hp.rounds
  · rw [onFaults_append, onFaults, onFaults, hsteps]
    exact hp.count

/-- **Each effect keeps the protocol.** -/
theorem Effect.protocol (h : Effect i f f' E) (hp : Protocol i f t) : Protocol i f' (t ++ E) := by
  cases h with
  | stay tm E silent =>
      have hsteps : steps i E = [] := steps_eq_nil (fun e he => (silent e he).1)
      obtain ⟨hrounds, hcount⟩ := hp.idle_events hsteps
      refine ⟨hrounds, hcount, ?_⟩
      have hcalm : ∀ e ∈ E, ¬ IsOnFault i e ∧ ¬ Clears i e := by
        intro e he
        refine ⟨fun hf => ?_, (silent e he).2⟩
        obtain ⟨fn, rfl⟩ := hf
        exact absurd (silent _ he).1 (by simp [stepAt])
      exact hp.history.trans (since_append_silent hcalm).symm
  | trigger tm s call idle away =>
      have hsteps : steps i [.detect i f.cfg.detect true, .onFault i f.cfg.onFault, .uprint call]
          = [.onFault f.cfg.onFault] := by
        simp [steps, List.filterMap_cons, stepAt]
      have hbefore : Rounds (faultRound f.cfg) [] (steps i t) := by
        have := hp.rounds
        rwa [pending, if_pos idle] at this
      refine ⟨?_, ?_, ?_⟩
      · rw [steps_append, hsteps, pending, if_neg away]
        exact hbefore.start _
      · rw [onFaults_append, onFaults, onFaults, hsteps]
        show f.triggerCount + 1 = _
        rw [hp.count, UInt32.ofNat_add]
        rfl
      · refine iff_of_true rfl ?_
        rw [show ∀ a b c : FaultEvent n, t ++ [a, b, c] = t ++ [a] ++ [b] ++ [c] by simp]
        exact (since_snoc _).mpr (Or.inr ⟨id, (since_snoc _).mpr (Or.inl ⟨_, rfl⟩)⟩)
  | recover tm call mask away =>
      have hsteps := recover_steps (i := i) f.cfg.detect call f.cfg.onRecover mask
      have hbefore : Rounds (faultRound f.cfg) [.onFault f.cfg.onFault] (steps i t) := by
        have := hp.rounds
        rwa [pending, if_neg away] at this
      refine ⟨?_, ?_, ?_⟩
      · rw [steps_append, hsteps]
        exact hbefore.finish rfl
      · rw [onFaults_append, onFaults, onFaults, hsteps]
        have hnone : (f.cfg.onRecover.toList.map (fun fn => FaultStep.onRecover (some fn))
            ++ [FaultStep.idle]).countP FaultStep.isOnFault = 0 := by
          cases f.cfg.onRecover <;> rfl
        rw [hnone]
        exact hp.count
      · exact hp.history.trans (since_append_silent (recover_silent _ call _ mask)).symm
  | forget e clears =>
      have hsteps : steps i [e] = [] := by
        cases e <;> simp_all [Clears, steps, stepAt]
      obtain ⟨hrounds, hcount⟩ := hp.idle_events hsteps
      refine ⟨hrounds, hcount, iff_of_false (by simp) (fun hs => ?_)⟩
      rcases (since_snoc e).mp hs with hf | ⟨hc, _⟩
      · obtain ⟨fn, rfl⟩ := hf
        exact clears
      · exact hc clears

theorem Effect.justified (h : Effect i f f' E) : Justified i f.cfg.detect E := by
  cases h with
  | stay tm E silent => exact justified_of_steps (steps_eq_nil (fun e he => (silent e he).1))
  | trigger tm s call idle away =>
      refine ⟨preceded_cons rfl ?_, preceded_of_none ?_⟩
      · simp [IsOnFault]
      · simp
  | recover tm call mask away =>
      refine ⟨preceded_of_none (fun e he => (recover_silent _ call _ mask e he).1), ?_⟩
      rw [List.cons_append, List.cons_append]
      exact preceded_cons rfl (by simp)
  | forget e clears =>
      refine justified_of_steps (steps_eq_nil (fun x hx => ?_))
      rw [List.mem_singleton.mp hx]
      cases e <;> simp_all [Clears, stepAt]

/-! ## Quiet calls -/

/-- No callback of the call does anything to the fault manager. -/
def Quiet : FaultOp n → Prop
  | .update env => ∀ i, (env i).detect = .done ∧ (env i).action = .done
  | .clear _ detect _ onRecover => detect = .done ∧ onRecover = .done
  | _ => True

/-- From `w` to `w'` each registered fault saw one effect, and `E` is what was called. -/
structure Visit (w w' : FaultWorld n) (E : List (FaultEvent n)) : Prop where
  trace : w'.trace = w.trace ++ E
  count : w'.sys.faultCount = w.sys.faultCount
  handles : w'.handles = w.handles
  cfg : ∀ i : Fin n, (w'.fault i).cfg = (w.fault i).cfg
  effect : ∀ i : Fin n, i.val < w.sys.faultCount → Effect i (w.fault i) (w'.fault i) E
  beyond : ∀ i : Fin n, w.sys.faultCount ≤ i.val → steps i E = []

variable {w w' : FaultWorld n}

/-- Nothing happens. -/
theorem visit_nothing (w : FaultWorld n) : Visit w w [] where
  trace := (List.append_nil _).symm
  count := rfl
  handles := rfl
  cfg := fun _ => rfl
  effect := fun i _ => .stay (w.fault i).recoveryTimer [] (by simp)
  beyond := fun _ _ => rfl

/-- A visit to one fault: the others see nothing of it. -/
theorem Touched.visit {E : List (FaultEvent n)} (h : Touched i f E w w')
    (hi : i.val < w.sys.faultCount) (hat : Effect i (w.fault i) f E)
    (hE : ∀ j, j ≠ i → ∀ e ∈ E, stepAt j e = none ∧ ¬ Clears j e) : Visit w w' E where
  trace := h.trace
  count := h.count
  handles := h.handles
  cfg := by
    intro j
    by_cases hji : j = i
    · rw [hji, h.self]
      exact hat.cfg
    · rw [h.others j hji]
  effect := by
    intro j _
    by_cases hji : j = i
    · rw [hji, h.self]
      exact hat
    · rw [h.others j hji]
      exact .stay (w.fault j).recoveryTimer E (hE j hji)
  beyond := by
    intro j hj
    have hji : j ≠ i := fun he => by rw [he] at hj; omega
    exact steps_eq_nil (fun e he => (hE j hji e he).1)

theorem triggered_effect (hs : f.state = .idle) (now : UInt64) (call : UprintCall) :
    Effect i f (triggeredFault f now)
      [.detect i f.cfg.detect true, .onFault i f.cfg.onFault, .uprint call] := by
  unfold triggeredFault
  dsimp only
  split
  · exact .trigger _ .recovering call hs (by simp)
  · exact .trigger f.recoveryTimer .active call hs (by simp)

/-- A recovery concerns one fault only. -/
theorem recoverEvents_other (cfg : FaultConfig) (call : UprintCall) (mask : BitVec 32)
    (hj : j ≠ i) : ∀ e ∈ recoverEvents i cfg call mask, stepAt j e = none ∧ ¬ Clears j e := by
  unfold recoverEvents
  cases cfg.onRecover with
  | none => simp [stepAt, Clears, Ne.symm hj]
  | some fn => simp [stepAt, Clears, Ne.symm hj]

theorem faultUpdateIdle_visit (now : UInt64) (result : Bool) (hi : i.val < w.sys.faultCount)
    (hs : (w.fault i).state = .idle) :
    ∃ E, Visit w (faultUpdateIdle w i now (runScript .done) result (runScript .done)) E := by
  cases result with
  | false =>
      refine ⟨_, (idle_calm w i now).visit hi (.stay (w.fault i).recoveryTimer _ ?_) fun j _ => ?_⟩
      · simp [stepAt, Clears]
      · simp [stepAt, Clears]
  | true =>
      obtain ⟨call, h⟩ := idle_trigger w i now
      refine ⟨_, h.visit hi (triggered_effect hs now call) fun j hj => ?_⟩
      simp [stepAt, Clears, Ne.symm hj]

theorem faultUpdateRecovering_visit (elapsedNow now : UInt64) (result : Bool)
    (hi : i.val < w.sys.faultCount) (hs : (w.fault i).state = .recovering) :
    ∃ E, Visit w (faultUpdateRecovering w i elapsedNow now (runScript .done) result
      (runScript .done)) E := by
  cases hdue : (simpleTimerHasElapsed (w.fault i).recoveryTimer elapsedNow).1 with
  | false =>
      exact ⟨_, (recovering_wait now result hdue).visit hi (.stay _ [] (by simp)) (by simp)⟩
  | true =>
      cases result with
      | true =>
          obtain ⟨call, h⟩ := recovering_extend now hdue
          refine ⟨_, h.visit hi (.stay _ _ ?_) fun j _ => ?_⟩
          · simp [stepAt, Clears]
          · simp [stepAt, Clears]
      | false =>
          obtain ⟨call, mask, h⟩ := recovering_end now hdue
          exact ⟨_, h.visit hi (.recover _ call mask (by rw [hs]; simp))
            fun j hj => recoverEvents_other _ call mask hj⟩

theorem faultClear_visit {handle : Option (Fin n)} (result : Bool)
    (hh : ∀ i, handle = some i → i.val < w.sys.faultCount) :
    ∃ E, Visit w (faultClear w handle (runScript .done) result (runScript .done)) E := by
  cases handle with
  | none => exact ⟨[], visit_nothing w⟩
  | some i =>
      by_cases hs : (w.fault i).state = .active
      · cases result with
        | false =>
            obtain ⟨call, mask, h⟩ := faultClear_done hs
            exact ⟨_, h.visit (hh i rfl) (.recover (w.fault i).recoveryTimer call mask
              (by rw [hs]; simp)) fun j hj => recoverEvents_other _ call mask hj⟩
        | true =>
            obtain ⟨call, h⟩ := faultClear_refused hs
            refine ⟨_, h.visit (hh i rfl) (.stay (w.fault i).recoveryTimer _ ?_) fun j _ => ?_⟩
            · simp [stepAt, Clears]
            · simp [stepAt, Clears]
      · rw [faultClear_inactive hs]
        exact ⟨[], visit_nothing w⟩

/-! ## The history -/

theorem historyClear_visit {handle : Option (Fin n)}
    (hh : ∀ i, handle = some i → i.val < w.sys.faultCount) :
    ∃ E, Visit w (w.historyClear handle) E := by
  cases handle with
  | none => exact ⟨[], visit_nothing w⟩
  | some i =>
      refine ⟨_, (historyClear_touched w i).visit (hh i rfl) (.forget _ rfl) fun j hj => ?_⟩
      simp [stepAt, Clears, Ne.symm hj]

theorem historyClearAll_visit (w : FaultWorld n) :
    Visit w w.historyClearAll [.historyClearAll] where
  trace := rfl
  count := rfl
  handles := rfl
  cfg := by
    intro i
    obtain ⟨flag, hi⟩ := historyClearAll_keeps w i
    rw [hi]
  effect := by
    intro i hi
    rw [historyClearAll_fault w hi]
    exact .forget .historyClearAll trivial
  beyond := fun _ _ => rfl

/-! ## Runs -/

/-- Every registered fault follows the protocol, and no other fault has ever done anything. -/
structure ProtocolOk (w : FaultWorld n) : Prop where
  registered : ∀ i : Fin n, i.val < w.sys.faultCount → Protocol i (w.fault i) w.trace
  beyond : ∀ i : Fin n, w.sys.faultCount ≤ i.val → steps i w.trace = []
  /-- A handle is of a registered fault. -/
  handles : ∀ i : Fin n, some i ∈ w.handles → i.val < w.sys.faultCount

/-- `E` is what was called from `w` to `w'`, each step of it for a reason found in `E`. -/
structure Called (w w' : FaultWorld n) (E : List (FaultEvent n)) : Prop where
  trace : w'.trace = w.trace ++ E
  cfg : ∀ i : Fin n, (w'.fault i).cfg = (w.fault i).cfg
  justified : ∀ i : Fin n, Justified i (w.fault i).cfg.detect E

theorem Called.refl (w : FaultWorld n) : Called w w [] :=
  ⟨by rw [List.append_nil], fun _ => rfl, fun _ => justified_of_steps rfl⟩

theorem Called.trans {w₁ w₂ w₃ : FaultWorld n} {E E' : List (FaultEvent n)}
    (h : Called w₁ w₂ E) (h' : Called w₂ w₃ E') : Called w₁ w₃ (E ++ E') where
  trace := by rw [h'.trace, h.trace, List.append_assoc]
  cfg := fun i => (h'.cfg i).trans (h.cfg i)
  justified := by
    intro i
    refine (h.justified i).append ?_
    rw [← h.cfg i]
    exact h'.justified i

theorem Visit.ok {E : List (FaultEvent n)} (h : Visit w w' E) (hw : ProtocolOk w) :
    ProtocolOk w' where
  registered := by
    intro i hi
    rw [h.count] at hi
    rw [h.trace]
    exact (h.effect i hi).protocol (hw.registered i hi)
  beyond := by
    intro i hi
    rw [h.count] at hi
    rw [h.trace, steps_append, hw.beyond i hi, h.beyond i hi]
    rfl
  handles := by
    rw [h.handles, h.count]
    exact hw.handles

theorem Visit.called {E : List (FaultEvent n)} (h : Visit w w' E) : Called w w' E where
  trace := h.trace
  cfg := h.cfg
  justified := by
    intro i
    by_cases hi : i.val < w.sys.faultCount
    · exact (h.effect i hi).justified
    · exact justified_of_steps (h.beyond i (Nat.le_of_not_lt hi))

theorem faultUpdateSlot_visit (elapsedNow now : UInt64) (result : Bool)
    (hi : i.val < w.sys.faultCount) :
    ∃ E, Visit w (faultUpdateSlot w i elapsedNow now (runScript .done) result (runScript .done))
      E := by
  unfold faultUpdateSlot
  split
  · exact ⟨[], visit_nothing w⟩
  · cases hs : (w.fault i).state with
    | idle => exact faultUpdateIdle_visit now result hi hs
    | active => exact ⟨[], visit_nothing w⟩
    | recovering => exact faultUpdateRecovering_visit elapsedNow now result hi hs

/-- The update visits each registered fault once, from the given ones on. -/
theorem faultUpdateLoop_called {env : Fin n → SlotEnv}
    (hq : ∀ i, (env i).detect = .done ∧ (env i).action = .done) :
    ∀ (is : List (Fin n)) (w : FaultWorld n), ProtocolOk w →
      ∃ E, Called w (faultUpdateLoop env is w) E ∧ ProtocolOk (faultUpdateLoop env is w)
  | [], w, hw => ⟨[], Called.refl w, hw⟩
  | i :: is, w, hw => by
      unfold faultUpdateLoop
      split
      · rename_i hi
        rw [(hq i).1, (hq i).2]
        obtain ⟨E, hv⟩ := faultUpdateSlot_visit (env i).elapsedNow (env i).now (env i).result hi
        obtain ⟨E', hc, hok⟩ := faultUpdateLoop_called hq is _ (hv.ok hw)
        exact ⟨E ++ E', hv.called.trans hc, hok⟩
      · exact ⟨[], Called.refl w, hw⟩

/-- A new fault has nothing behind it, so it may start with any configuration. -/
theorem registerDone_protocol (config : FaultConfig) (h : w.sys.faultCount < n)
    (hw : ProtocolOk w) : ProtocolOk (registerDone w config h) := by
  refine ⟨fun j hj => ?_, fun j hj => hw.beyond j (Nat.le_of_succ_le hj),
    registerDone_handles config h hw.handles⟩
  by_cases hne : j.val = w.sys.faultCount
  · obtain rfl : j = ⟨w.sys.faultCount, h⟩ := Fin.ext hne
    have hsteps : steps ⟨w.sys.faultCount, h⟩ w.trace = [] := hw.beyond _ (Nat.le_refl _)
    rw [registerDone_new]
    refine ⟨?_, ?_, ?_⟩
    · show Rounds _ _ (steps _ w.trace)
      rw [hsteps]
      exact rounds_nil _
    · show _ = UInt32.ofNat (onFaults _ w.trace)
      rw [onFaults, hsteps]
      rfl
    · refine iff_of_false (by simp [Fault.register]) (fun hs => ?_)
      obtain ⟨e, he, fn, rfl⟩ := hs.exists
      exact absurd (List.filterMap_eq_nil_iff.mp hsteps _ he) (by simp [stepAt])
  · rw [registerDone_old config h hne]
    have hlt : j.val < w.sys.faultCount + 1 := hj
    exact hw.registered j (by omega)

theorem register_called (config : Option FaultConfig) (hw : ProtocolOk w) :
    (w.register config).trace = w.trace ∧ ProtocolOk (w.register config) := by
  rcases register_cases w config with hr | ⟨c, h, hr⟩
  · rw [hr]
    exact ⟨rfl, hw.registered, hw.beyond, registerRefused_handles hw.handles⟩
  · rw [hr]
    exact ⟨rfl, registerDone_protocol c h hw⟩

/-- One quiet call: what it calls, and that it keeps the protocol. -/
theorem faultCall_called (hw : ProtocolOk w) (op : FaultOp n) (hq : Quiet op) :
    (∃ E, (faultCall w op).trace = w.trace ++ E
      ∧ ∀ i : Fin n, Justified i (w.fault i).cfg.detect E) ∧ ProtocolOk (faultCall w op) := by
  cases op with
  | register config =>
      obtain ⟨htrace, hok⟩ := register_called config hw
      exact ⟨⟨[], by rw [List.append_nil]; exact htrace, fun _ => justified_of_steps rfl⟩, hok⟩
  | update env =>
      obtain ⟨E, hc, hok⟩ := faultUpdateLoop_called hq (List.finRange n) w hw
      exact ⟨⟨E, hc.trace, hc.justified⟩, hok⟩
  | clear k detect result onRecover =>
      obtain ⟨rfl, rfl⟩ := hq
      obtain ⟨E, hv⟩ := faultClear_visit result (handle_registered hw.handles (k := k))
      exact ⟨⟨E, hv.called.trace, hv.called.justified⟩, hv.ok hw⟩
  | historyClear k =>
      obtain ⟨E, hv⟩ := historyClear_visit (handle_registered hw.handles (k := k))
      exact ⟨⟨E, hv.called.trace, hv.called.justified⟩, hv.ok hw⟩
  | historyClearAll =>
      have hv := historyClearAll_visit w
      exact ⟨⟨_, hv.called.trace, hv.called.justified⟩, hv.ok hw⟩

theorem protocolOk_init (n : Nat) : ProtocolOk (FaultWorld.init n) where
  registered := fun _ hi => absurd hi (Nat.not_lt_zero _)
  beyond := fun _ _ => rfl
  handles := fun i hi => absurd hi (by simp [FaultWorld.init])

theorem protocolOk_run (hw : ProtocolOk w) (ops : List (FaultOp n)) (hq : ∀ op ∈ ops, Quiet op) :
    ProtocolOk (faultRun w ops) := by
  induction ops generalizing w with
  | nil => exact hw
  | cons op ops ih =>
      exact ih (faultCall_called hw op (hq op List.mem_cons_self)).2
        (fun op' h => hq op' (List.mem_cons_of_mem op h))

/-- Away from idle means one `on_fault` more than returns. -/
theorem Protocol.away_iff (h : Protocol i f t) :
    f.state ≠ .idle ↔ onFaults i t = idles i t + 1 := by
  obtain ⟨k, hk⟩ := h.rounds
  have hon : (faultRound f.cfg).countP FaultStep.isOnFault = 1 := by
    unfold faultRound
    cases f.cfg.onRecover <;> rfl
  have hidle : (faultRound f.cfg).countP FaultStep.isIdle = 1 := by
    unfold faultRound
    cases f.cfg.onRecover <;> rfl
  have ho : onFaults i t = k + (pending f).countP FaultStep.isOnFault := by
    rw [onFaults, hk, List.countP_append, rounds_countP, hon, Nat.mul_one]
  have hi : idles i t = k + (pending f).countP FaultStep.isIdle := by
    rw [idles, hk, List.countP_append, rounds_countP, hidle, Nat.mul_one]
  rw [ho, hi]
  unfold pending
  split
  · rename_i hs
    refine iff_of_false (fun hne => hne hs) ?_
    simp
  · rename_i hs
    exact iff_of_true hs rfl

/--
**The callback protocol.**

In every run whose callbacks do not call back, whatever `detect` answers and the
clock reads: the steps of a registered fault are whole rounds of `on_fault`,
`on_recover` if there is one, and the return to `IDLE`, and then the `on_fault` of a
round under way; its counter and its history flag say what the trace says. A slot
that is not registered has no steps, so nothing is counted from before its
registration. Within each call of the run, every `on_fault` comes after a `detect`
of that fault that said true, and every return to `IDLE` after one that said false.
-/
theorem fault_protocol (n : Nat) (ops : List (FaultOp n)) (hq : ∀ op ∈ ops, Quiet op)
    (i : Fin n) :
    let w := faultRun (FaultWorld.init n) ops
    let f := w.fault i
    (i.val < w.sys.faultCount →
      (∃ k, steps i w.trace = (List.replicate k (faultRound f.cfg)).flatten ++ pending f)
      ∧ (f.state ≠ .idle ↔ onFaults i w.trace = idles i w.trace + 1)
      ∧ f.triggerCount.toNat = onFaults i w.trace % 2 ^ 32
      ∧ (f.hasEverTriggered = true ↔ Since (IsOnFault i) (Clears i) w.trace))
    ∧ (w.sys.faultCount ≤ i.val → steps i w.trace = [])
    ∧ ∀ pre op post, ops = pre ++ op :: post →
      let v := faultRun (FaultWorld.init n) pre
      ∃ E, (faultCall v op).trace = v.trace ++ E ∧ Justified i (v.fault i).cfg.detect E := by
  intro w f
  have hw : ProtocolOk w := protocolOk_run (protocolOk_init n) ops hq
  refine ⟨fun hi => ?_, hw.beyond i, fun pre op post hops => ?_⟩
  · have hp := hw.registered i hi
    refine ⟨hp.rounds, hp.away_iff, ?_, hp.history⟩
    rw [hp.count, UInt32.toNat_ofNat']
  · have hv : ProtocolOk (faultRun (FaultWorld.init n) pre) :=
      protocolOk_run (protocolOk_init n) pre (fun op' h => hq op' (by rw [hops]; simp [h]))
    obtain ⟨⟨E, htrace, hj⟩, _⟩ := faultCall_called hv op (hq op (by rw [hops]; simp))
    exact ⟨E, htrace, hj i⟩

end

/-- A latched fault, cleared and raised again, and one with a cooldown of half a second. -/
def quietCalls : List (FaultOp 2) :=
  [.register (some ⟨none, some 1, some 2, some 3, 0⟩),
    .register (some ⟨none, some 4, some 5, none, 500⟩),
    .update (fun _ => ⟨0, 0, .done, true, .done⟩),
    .clear 0 .done false .done,
    .update (fun i => ⟨500, 500, .done, i.val == 0, .done⟩)]

theorem quietCalls_quiet : ∀ op ∈ quietCalls, Quiet op := by
  simp [quietCalls, Quiet]

theorem fault_protocol_two :
    let w := faultRun (FaultWorld.init 2) quietCalls
    steps 0 w.trace = [.onFault (some 2), .onRecover (some 3), .idle, .onFault (some 2)]
    ∧ steps 1 w.trace = [.onFault (some 5), .idle]
    ∧ ((w.fault 0).state ≠ .idle ↔ onFaults 0 w.trace = idles 0 w.trace + 1) :=
  ⟨by decide, by decide, ((fault_protocol 2 quietCalls quietCalls_quiet 0).1 (by decide)).2.1⟩

end FwCore.Proof
