import FwCore.Proof.FaultProtocol

/-!
# One fault at a time

With callbacks that do not call back into the fault manager, a fault is a machine of
its own: `fault_update` visits each registered fault once, and what it does there
depends on that fault, the clock and the answer of `detect` alone. `slotFault` is one
visit, `slotCalls` the application functions it calls, and `faultUpdate_heard` says that
an update is one visit to each.

`Heard` keeps of a visit what can be said without speaking of the other faults, and `Seen`
of that the answers of `detect` and the number of calls of `on_fault`.
-/

namespace FwCore.Proof

open FwCore Lib

/-! ## One visit -/

/-- What a visit of `fault_update` makes of a fault. -/
def slotFault (f : Fault) (e : SlotEnv) : Fault :=
  match f.state with
  | .idle => if e.result then triggeredFault f e.now else f
  | .active => f
  | .recovering =>
    let polled := simpleTimerHasElapsed f.recoveryTimer e.elapsedNow
    if polled.1 then
      if e.result then
        { f with recoveryTimer := simpleTimerSetup e.now f.cfg.recoveryMs.toUInt64 false }
      else { f with recoveryTimer := polled.2, state := .idle }
    else { f with recoveryTimer := polled.2 }

/-- A call of a function of the application. -/
inductive FaultCallback where
  | detect (fn : Option FnPtr) (result : Bool)
  | onFault (fn : Option FnPtr)
  | onRecover (fn : Option FnPtr)
deriving DecidableEq, Repr

/-- What `detect` answered. -/
def FaultCallback.answer : FaultCallback → Option Bool
  | .detect _ result => some result
  | _ => none

def FaultCallback.isOnFault : FaultCallback → Bool
  | .onFault _ => true
  | _ => false

/-- The calls when a fault goes back to idle. -/
def recoverCalls (cfg : FaultConfig) : List FaultCallback :=
  .detect cfg.detect false :: cfg.onRecover.toList.map fun fn => .onRecover (some fn)

/-- The calls in a visit. -/
def slotCalls (f : Fault) (e : SlotEnv) : List FaultCallback :=
  match f.state with
  | .idle =>
    if e.result then [.detect f.cfg.detect true, .onFault f.cfg.onFault]
    else [.detect f.cfg.detect false]
  | .active => []
  | .recovering =>
    if (simpleTimerHasElapsed f.recoveryTimer e.elapsedNow).1 then
      if e.result then [.detect f.cfg.detect true] else recoverCalls f.cfg
    else []

/-- The answers of `detect` in a visit: at most one, as it is called at most once. -/
def slotDetects (f : Fault) (e : SlotEnv) : List Bool :=
  match f.state with
  | .idle => [e.result]
  | .active => []
  | .recovering => if (simpleTimerHasElapsed f.recoveryTimer e.elapsedNow).1 then [e.result] else []

/-- The calls of `on_fault` in a visit. -/
def slotOnFaults (f : Fault) (e : SlotEnv) : Nat :=
  if f.state = .idle ∧ e.result = true then 1 else 0

section

variable {n : Nat} {i j : Fin n} {w v : FaultWorld n}

/-- The answer of fault `i`'s `detect` that an event is. -/
def detectAt (i : Fin n) : FaultEvent n → Option Bool
  | .detect j _ result => if j = i then some result else none
  | _ => none

/-- The answers of fault `i`'s `detect`. -/
def detects (i : Fin n) (t : List (FaultEvent n)) : List Bool := t.filterMap (detectAt i)

/-- The call at fault `i` that an event is. -/
def callAt (i : Fin n) : FaultEvent n → Option FaultCallback
  | .detect j fn result => if j = i then some (.detect fn result) else none
  | .onFault j fn => if j = i then some (.onFault fn) else none
  | .onRecover j fn _ => if j = i then some (.onRecover fn) else none
  | _ => none

/-- The calls at fault `i`. -/
def callsAt (i : Fin n) (t : List (FaultEvent n)) : List FaultCallback := t.filterMap (callAt i)

theorem callsAt_append (t t' : List (FaultEvent n)) :
    callsAt i (t ++ t') = callsAt i t ++ callsAt i t' := List.filterMap_append

/-- The answers are among the calls. -/
theorem detects_eq (t : List (FaultEvent n)) :
    detects i t = (callsAt i t).filterMap FaultCallback.answer := by
  have hevent : detectAt i = fun e => (callAt i e).bind FaultCallback.answer := by
    funext e
    cases e with
    | detect j fn result => by_cases hj : j = i <;> simp [detectAt, callAt, hj, FaultCallback.answer]
    | onFault j fn => by_cases hj : j = i <;> simp [detectAt, callAt, hj, FaultCallback.answer]
    | onRecover j fn mask =>
        by_cases hj : j = i <;> simp [detectAt, callAt, hj, FaultCallback.answer]
    | idle j => rfl
    | historyClear j => rfl
    | historyClearAll => rfl
    | uprint call => rfl
  unfold detects callsAt
  rw [List.filterMap_filterMap, hevent]

/-- And so are the calls of `on_fault`. -/
theorem onFaults_eq (t : List (FaultEvent n)) :
    onFaults i t = (callsAt i t).countP FaultCallback.isOnFault := by
  unfold onFaults steps callsAt
  rw [List.countP_filterMap, List.countP_filterMap]
  refine List.countP_congr fun e _ => ?_
  cases e with
  | detect j fn result => by_cases hj : j = i <;> simp [stepAt, callAt, hj, FaultCallback.isOnFault]
  | onFault j fn =>
      by_cases hj : j = i <;>
        simp [stepAt, callAt, hj, FaultCallback.isOnFault, FaultStep.isOnFault]
  | onRecover j fn mask =>
      by_cases hj : j = i <;>
        simp [stepAt, callAt, hj, FaultCallback.isOnFault, FaultStep.isOnFault]
  | idle j => by_cases hj : j = i <;> simp [stepAt, callAt, hj, FaultStep.isOnFault]
  | historyClear j => simp [stepAt, callAt]
  | historyClearAll => simp [stepAt, callAt]
  | uprint call => simp [stepAt, callAt]

theorem slotDetects_eq (f : Fault) (e : SlotEnv) :
    (slotCalls f e).filterMap FaultCallback.answer = slotDetects f e := by
  unfold slotCalls slotDetects recoverCalls
  cases f.state with
  | idle => cases e.result <;> rfl
  | active => rfl
  | recovering =>
      dsimp only
      split
      · cases e.result with
        | true => rfl
        | false => cases f.cfg.onRecover <;> rfl
      · rfl

theorem slotOnFaults_eq (f : Fault) (e : SlotEnv) :
    (slotCalls f e).countP FaultCallback.isOnFault = slotOnFaults f e := by
  unfold slotCalls slotOnFaults recoverCalls
  cases f.state with
  | idle => cases e.result <;> rfl
  | active => rfl
  | recovering =>
      dsimp only
      split
      · cases e.result with
        | true => rfl
        | false => cases f.cfg.onRecover <;> rfl
      · rfl

/-- What can be said of fault `i` alone: it became `f`, and these are the calls. -/
structure Heard (i : Fin n) (f : Fault) (calls : List FaultCallback) (w v : FaultWorld n) :
    Prop where
  count : v.sys.faultCount = w.sys.faultCount
  handles : v.handles = w.handles
  fault : v.fault i = f
  trace : ∃ E, v.trace = w.trace ++ E ∧ callsAt i E = calls

theorem Heard.refl (i : Fin n) (w : FaultWorld n) : Heard i (w.fault i) [] w w :=
  ⟨rfl, rfl, rfl, [], (List.append_nil _).symm, rfl⟩

theorem Heard.trans {w₁ w₂ w₃ : FaultWorld n} {f f' : Fault} {c c' : List FaultCallback}
    (h : Heard i f c w₁ w₂) (h' : Heard i f' c' w₂ w₃) : Heard i f' (c ++ c') w₁ w₃ := by
  obtain ⟨E, ht, hc⟩ := h.trace
  obtain ⟨E', ht', hc'⟩ := h'.trace
  refine ⟨h'.count.trans h.count, h'.handles.trans h.handles, h'.fault, E ++ E', ?_, ?_⟩
  · rw [ht', ht, List.append_assoc]
  · rw [callsAt_append, hc, hc']

theorem Touched.heard {f : Fault} {E : List (FaultEvent n)} (h : Touched i f E w v) :
    Heard i f (callsAt i E) w v :=
  ⟨h.count, h.handles, h.self, E, h.trace, rfl⟩

/-- All calls at fault `i`, from the start. -/
theorem Heard.callsAt {f : Fault} {c : List FaultCallback} (h : Heard i f c w v) :
    callsAt i v.trace = callsAt i w.trace ++ c := by
  obtain ⟨E, ht, hc⟩ := h.trace
  rw [ht, callsAt_append, hc]

/-- What can be said of fault `i` alone: it became `f`, with these answers and calls. -/
structure Seen (i : Fin n) (f : Fault) (answers : List Bool) (calls : Nat)
    (w v : FaultWorld n) : Prop where
  count : v.sys.faultCount = w.sys.faultCount
  fault : v.fault i = f
  trace : ∃ E, v.trace = w.trace ++ E ∧ detects i E = answers ∧ onFaults i E = calls

theorem Heard.seen {f : Fault} {c : List FaultCallback} (h : Heard i f c w v) :
    Seen i f (c.filterMap FaultCallback.answer) (c.countP FaultCallback.isOnFault) w v := by
  obtain ⟨E, ht, hc⟩ := h.trace
  exact ⟨h.count, h.fault, E, ht, by rw [detects_eq, hc], by rw [onFaults_eq, hc]⟩

/-- No event of another fault, so nothing to see. -/
def NoneOf (i : Fin n) (E : List (FaultEvent n)) : Prop :=
  ∀ e ∈ E, detectAt i e = none ∧ stepAt i e = none

theorem NoneOf.calls {E : List (FaultEvent n)} (h : NoneOf i E) : callsAt i E = [] := by
  refine List.filterMap_eq_nil_iff.mpr fun e he => ?_
  obtain ⟨hd, hs⟩ := h e he
  cases e with
  | detect j fn result =>
      by_cases hj : j = i
      · exact absurd hd (by simp [detectAt, hj])
      · exact if_neg hj
  | onFault j fn =>
      by_cases hj : j = i
      · exact absurd hs (by simp [stepAt, hj])
      · exact if_neg hj
  | onRecover j fn mask =>
      by_cases hj : j = i
      · exact absurd hs (by simp [stepAt, hj])
      · exact if_neg hj
  | idle j => rfl
  | historyClear j => rfl
  | historyClearAll => rfl
  | uprint call => rfl

theorem Touched.unheard {f : Fault} {E : List (FaultEvent n)} (h : Touched j f E w v) (hne : i ≠ j)
    (hE : NoneOf i E) : Heard i (w.fault i) [] w v :=
  ⟨h.count, h.handles, h.others i hne, E, h.trace, hE.calls⟩

/-- The answers of fault `i`'s `detect` between two worlds. -/
def newDetects (i : Fin n) (w v : FaultWorld n) : List Bool :=
  detects i (v.trace.drop w.trace.length)

theorem Seen.newDetects {f : Fault} {a : List Bool} {c : Nat} (h : Seen i f a c w v) :
    newDetects i w v = a := by
  obtain ⟨E, ht, hd, _⟩ := h.trace
  unfold Proof.newDetects
  rw [ht, List.drop_left, hd]

theorem Seen.onFaults {f : Fault} {a : List Bool} {c : Nat} (h : Seen i f a c w v) :
    onFaults i v.trace = onFaults i w.trace + c := by
  obtain ⟨E, ht, _, ho⟩ := h.trace
  rw [ht, onFaults_append, ho]

theorem recoverEvents_calls (i : Fin n) (cfg : FaultConfig) (call : UprintCall)
    (mask : BitVec 32) : callsAt i (recoverEvents i cfg call mask) = recoverCalls cfg := by
  unfold recoverEvents recoverCalls callsAt
  cases cfg.onRecover with
  | none => simp [callAt, List.filterMap_cons]
  | some fn => simp [callAt, List.filterMap_cons]

theorem recoverEvents_none (cfg : FaultConfig) (call : UprintCall) (mask : BitVec 32)
    (hj : j ≠ i) : NoneOf j (recoverEvents i cfg call mask) := by
  unfold recoverEvents NoneOf
  cases cfg.onRecover with
  | none => simp [detectAt, stepAt, Ne.symm hj]
  | some fn => simp [detectAt, stepAt, Ne.symm hj]

/-- What `slotFault` and `slotCalls` say is what happens, and it happens to one fault. -/
theorem faultUpdateSlot_touched (e : SlotEnv) (hreg : (w.fault i).registered = true) :
    ∃ E, Touched i (slotFault (w.fault i) e) E w (faultUpdateSlot w i e.elapsedNow e.now
        (runScript .done) e.result (runScript .done))
      ∧ callsAt i E = slotCalls (w.fault i) e ∧ ∀ j, j ≠ i → NoneOf j E := by
  have hslot : ¬ (w.fault i).registered = false := by
    rw [hreg]
    simp
  unfold faultUpdateSlot slotFault slotCalls
  rw [if_neg hslot]
  cases hs : (w.fault i).state with
  | idle =>
      cases hr : e.result with
      | false =>
          refine ⟨_, idle_calm w i e.now, ?_, fun j hj => ?_⟩
          · simp [callsAt, callAt]
          · simp [NoneOf, detectAt, stepAt, Ne.symm hj]
      | true =>
          obtain ⟨call, h⟩ := idle_trigger w i e.now
          refine ⟨_, h, ?_, fun j hj => ?_⟩
          · simp [callsAt, callAt, List.filterMap_cons]
          · simp [NoneOf, detectAt, stepAt, Ne.symm hj]
  | active =>
      refine ⟨[], Touched.refl i w, rfl, fun j _ => ?_⟩
      simp [NoneOf]
  | recovering =>
      dsimp only
      rw [← hs]
      cases hdue : (simpleTimerHasElapsed (w.fault i).recoveryTimer e.elapsedNow).1 with
      | false =>
          refine ⟨[], recovering_wait e.now e.result hdue, rfl, fun j _ => ?_⟩
          simp [NoneOf]
      | true =>
          cases hr : e.result with
          | true =>
              obtain ⟨call, h⟩ := recovering_extend (w := w) e.now hdue
              refine ⟨_, h, ?_, fun j hj => ?_⟩
              · simp [callsAt, callAt]
              · simp [NoneOf, detectAt, stepAt, Ne.symm hj]
          | false =>
              obtain ⟨call, mask, h⟩ := recovering_end (w := w) e.now hdue
              exact ⟨_, h, recoverEvents_calls i _ call mask,
                fun j hj => recoverEvents_none _ call mask hj⟩

/-- Another fault's slot. -/
theorem faultUpdateSlot_unheard (e : SlotEnv) (hne : i ≠ j) : Heard i (w.fault i) [] w
    (faultUpdateSlot w j e.elapsedNow e.now (runScript .done) e.result (runScript .done)) := by
  cases hreg : (w.fault j).registered with
  | true =>
      obtain ⟨E, h, _, hnone⟩ := faultUpdateSlot_touched e hreg
      exact h.unheard hne (hnone i hne)
  | false =>
      unfold faultUpdateSlot
      rw [if_pos hreg]
      exact Heard.refl i w

/-- The loop passes fault `i` by if it is not among the entries to come. -/
theorem faultUpdateLoop_unheard {env : Fin n → SlotEnv}
    (hq : ∀ i, (env i).detect = .done ∧ (env i).action = .done) :
    ∀ (is : List (Fin n)) (w : FaultWorld n), i ∉ is →
      Heard i (w.fault i) [] w (faultUpdateLoop env is w)
  | [], w, _ => Heard.refl i w
  | j :: is, w, hno => by
      unfold faultUpdateLoop
      split
      · rw [(hq j).1, (hq j).2]
        have hslot := faultUpdateSlot_unheard (w := w) (env j)
          (fun he => hno (by simp [he]) : i ≠ j)
        have hboth := hslot.trans
          (faultUpdateLoop_unheard hq is _ (fun h => hno (List.mem_cons_of_mem j h)))
        rw [hslot.fault] at hboth
        exact hboth
      · exact Heard.refl i w

/-- Entries in order, fault `i` among them: the loop visits it once. -/
theorem faultUpdateLoop_heard {env : Fin n → SlotEnv}
    (hq : ∀ i, (env i).detect = .done ∧ (env i).action = .done) :
    ∀ (is : List (Fin n)) (w : FaultWorld n), is.Pairwise (· < ·) → i ∈ is →
      i.val < w.sys.faultCount → (w.fault i).registered = true →
      Heard i (slotFault (w.fault i) (env i)) (slotCalls (w.fault i) (env i)) w
        (faultUpdateLoop env is w)
  | [], _, _, hmem, _, _ => absurd hmem List.not_mem_nil
  | j :: is, w, hsorted, hmem, hi, hreg => by
      obtain ⟨hbelow, hsorted'⟩ := List.pairwise_cons.mp hsorted
      unfold faultUpdateLoop
      rw [(hq j).1, (hq j).2]
      by_cases hij : i = j
      · subst hij
        rw [if_pos hi]
        obtain ⟨E, htouched, hcalls, _⟩ := faultUpdateSlot_touched (env i) hreg
        have hslot := htouched.heard
        rw [hcalls] at hslot
        have hboth := hslot.trans
          (faultUpdateLoop_unheard hq is _ (fun h => absurd (hbelow i h) (Nat.lt_irrefl _)))
        rw [hslot.fault, List.append_nil] at hboth
        exact hboth
      · have hmem' : i ∈ is := by
          rcases List.mem_cons.mp hmem with he | hmem'
          · exact absurd he hij
          · exact hmem'
        -- an earlier entry is registered as well, so the loop does not stop before `i`
        have hji : j.val < i.val := hbelow i hmem'
        rw [if_pos (Nat.lt_trans hji hi)]
        have hslot := faultUpdateSlot_unheard (w := w) (env j) hij
        have hrest := faultUpdateLoop_heard hq is _ hsorted' hmem'
          (Nat.lt_of_lt_of_eq hi hslot.count.symm) (by rw [hslot.fault]; exact hreg)
        have hboth := hslot.trans hrest
        rw [hslot.fault, List.nil_append] at hboth
        exact hboth

/-- **An update is one visit to each registered fault.** -/
theorem faultUpdate_heard {env : Fin n → SlotEnv} (hq : Quiet (.update env))
    (hi : i.val < w.sys.faultCount) (hreg : (w.fault i).registered = true) :
    Heard i (slotFault (w.fault i) (env i)) (slotCalls (w.fault i) (env i)) w
      (faultUpdate env w) :=
  faultUpdateLoop_heard hq (List.finRange n) w (List.pairwise_lt_finRange n) (List.mem_finRange i)
    hi hreg

/-- The answers and the calls of `on_fault` in it. -/
theorem faultUpdate_slot {env : Fin n → SlotEnv} (hq : Quiet (.update env))
    (hi : i.val < w.sys.faultCount) (hreg : (w.fault i).registered = true) :
    Seen i (slotFault (w.fault i) (env i)) (slotDetects (w.fault i) (env i))
      (slotOnFaults (w.fault i) (env i)) w (faultUpdate env w) := by
  have hseen := (faultUpdate_heard hq hi hreg).seen
  rw [slotDetects_eq, slotOnFaults_eq] at hseen
  exact hseen

/-- An update registers no fault. -/
theorem faultUpdateLoop_frame {env : Fin n → SlotEnv}
    (hq : ∀ i, (env i).detect = .done ∧ (env i).action = .done) :
    ∀ (is : List (Fin n)) (w : FaultWorld n),
      (faultUpdateLoop env is w).sys.faultCount = w.sys.faultCount
        ∧ (faultUpdateLoop env is w).handles = w.handles
  | [], _ => ⟨rfl, rfl⟩
  | j :: is, w => by
      unfold faultUpdateLoop
      split
      · obtain ⟨hcount, hhandles⟩ := faultUpdateLoop_frame hq is (faultUpdateSlot w j
          (env j).elapsedNow (env j).now (runScript (env j).detect) (env j).result
          (runScript (env j).action))
        rw [hcount, hhandles, (hq j).1, (hq j).2]
        cases hreg : (w.fault j).registered with
        | true =>
            obtain ⟨E, h, _⟩ := faultUpdateSlot_touched (env j) hreg
            exact ⟨h.count, h.handles⟩
        | false =>
            unfold faultUpdateSlot
            rw [if_pos hreg]
            exact ⟨rfl, rfl⟩
      · exact ⟨rfl, rfl⟩

/-! ## The other calls -/

/-- Two faults that differ, if at all, in their history flag. -/
def SameButHistory (f f' : Fault) : Prop := ∃ flag, f' = { f with hasEverTriggered := flag }

/-- `fault_clear` on fault `i`: it has an effect on an `ACTIVE` fault whose `detect` says false. -/
def ClearedBy (i : Fin n) (w : FaultWorld n) (op : FaultOp n) : Prop :=
  ∃ k detect onRecover, op = .clear k detect false onRecover ∧ w.handle k = some i
    ∧ (w.fault i).state = .active

/-- What `fault_clear` can do: nothing, or ask `detect` of an `ACTIVE` fault and act on it. -/
theorem faultClear_cases (w : FaultWorld n) (handle : Option (Fin n)) (result : Bool) :
    faultClear w handle (runScript .done) result (runScript .done) = w
      ∨ ∃ j E, handle = some j ∧ (w.fault j).state = .active
        ∧ Touched j (if result then w.fault j else { w.fault j with state := .idle }) E w
          (faultClear w handle (runScript .done) result (runScript .done)) := by
  cases handle with
  | none => exact Or.inl rfl
  | some j =>
      by_cases hs : (w.fault j).state = .active
      · cases result with
        | true =>
            obtain ⟨call, h⟩ := faultClear_refused hs
            exact Or.inr ⟨j, _, rfl, hs, h⟩
        | false =>
            obtain ⟨call, mask, h⟩ := faultClear_done hs
            exact Or.inr ⟨j, _, rfl, hs, h⟩
      · exact Or.inl (faultClear_inactive hs _ _ result)

/-- What a quiet call other than an update can do to a registered fault. -/
theorem faultCall_cases {op : FaultOp n} (hq : Quiet op) (hi : i.val < w.sys.faultCount)
    (hop : ∀ env, op ≠ .update env) :
    SameButHistory (w.fault i) ((faultCall w op).fault i)
      ∨ ClearedBy i w op ∧ (faultCall w op).fault i = { w.fault i with state := .idle } := by
  have hsame : ∀ {w' : FaultWorld n}, w'.fault i = w.fault i →
      SameButHistory (w.fault i) (w'.fault i) := by
    intro w' he
    rw [he]
    exact ⟨(w.fault i).hasEverTriggered, rfl⟩
  cases op with
  | update env => exact absurd rfl (hop env)
  | register config =>
      refine Or.inl (hsame ?_)
      rcases register_cases w config with hr | ⟨c, h, hr⟩
      · show (w.register config).fault i = w.fault i
        rw [hr]
        rfl
      · show (w.register config).fault i = w.fault i
        rw [hr]
        exact registerDone_old c h (Nat.ne_of_lt hi)
  | clear k detect result onRecover =>
      obtain ⟨rfl, rfl⟩ := hq
      unfold faultCall
      dsimp only
      rcases faultClear_cases w (w.handle k) result with hw | ⟨j, E, hk, hs, h⟩
      · rw [hw]
        exact Or.inl (hsame rfl)
      · by_cases hij : i = j
        · subst hij
          cases result with
          | true => exact Or.inl (hsame h.self)
          | false => exact Or.inr ⟨⟨k, _, _, rfl, hk, hs⟩, h.self⟩
        · exact Or.inl (hsame (h.others i hij))
  | historyClear k =>
      refine Or.inl ?_
      show SameButHistory (w.fault i) ((w.historyClear (w.handle k)).fault i)
      cases w.handle k with
      | none => exact hsame rfl
      | some j =>
          have h := historyClear_touched w j
          by_cases hij : i = j
          · subst hij
            exact ⟨false, h.self⟩
          · exact hsame (h.others i hij)
  | historyClearAll =>
      exact Or.inl ⟨false, historyClearAll_fault w hi⟩

/-- A quiet call registers one fault at most. -/
theorem faultCall_count {op : FaultOp n} (hq : Quiet op) (w : FaultWorld n) :
    (faultCall w op).sys.faultCount = w.sys.faultCount
      ∨ ∃ (c : FaultConfig) (h : w.sys.faultCount < n), faultCall w op = registerDone w c h := by
  cases op with
  | update env => exact Or.inl (faultUpdateLoop_frame hq _ w).1
  | register config =>
      rcases register_cases w config with hr | ⟨c, h, hr⟩
      · refine Or.inl ?_
        show (w.register config).sys.faultCount = _
        rw [hr]
        rfl
      · exact Or.inr ⟨c, h, hr⟩
  | clear k detect result onRecover =>
      refine Or.inl ?_
      obtain ⟨rfl, rfl⟩ := hq
      unfold faultCall
      dsimp only
      rcases faultClear_cases w (w.handle k) result with hw | ⟨j, E, _, _, h⟩
      · rw [hw]
      · exact h.count
  | historyClear k =>
      refine Or.inl ?_
      show (w.historyClear (w.handle k)).sys.faultCount = _
      cases w.handle k with
      | none => rfl
      | some j => rfl
  | historyClearAll => exact Or.inl rfl

/-- A registered fault stays registered. -/
theorem faultCall_keeps {op : FaultOp n} (hq : Quiet op) (hi : i.val < w.sys.faultCount) :
    i.val < (faultCall w op).sys.faultCount := by
  rcases faultCall_count hq w with hc | ⟨c, h, hr⟩
  · rw [hc]
    exact hi
  · rw [hr]
    exact Nat.lt_succ_of_lt hi

/-- A new fault is idle. -/
theorem faultCall_registers {op : FaultOp n} (hq : Quiet op)
    (hi : i.val < (faultCall w op).sys.faultCount) (hno : w.sys.faultCount ≤ i.val) :
    ((faultCall w op).fault i).registered = true ∧ ((faultCall w op).fault i).state = .idle := by
  rcases faultCall_count hq w with hc | ⟨c, h, hr⟩
  · rw [hc] at hi
    exact absurd hi (Nat.not_lt.mpr hno)
  · rw [hr] at hi ⊢
    have hlt : i.val < w.sys.faultCount + 1 := hi
    obtain rfl : i = ⟨w.sys.faultCount, h⟩ :=
      Fin.ext (Nat.le_antisymm (Nat.le_of_lt_succ hlt) hno)
    rw [registerDone_new]
    exact ⟨rfl, rfl⟩

end

end FwCore.Proof
