import Mathlib.Data.List.GetD
import FwCore.Proof.FaultMasks

/-!
# What a sequence of registrations leaves

`fault_register` fills the registry from the front. So after any sequence of calls the
registry holds, in the order they were passed, the configurations it accepted: those it
found nothing wrong with, as many as there is room for.
-/

namespace FwCore.Proof

open FwCore

section

variable {n : Nat} {w : FaultWorld n}

/-- What `fault_register` checks of a configuration. -/
def Checked (c : FaultConfig) : Prop := c.detect ≠ none ∧ c.onFault ≠ none

instance (c : FaultConfig) : Decidable (Checked c) := by
  unfold Checked
  infer_instance

/-- The configurations among the arguments that pass the check. -/
def checkedConfigs (configs : List (Option FaultConfig)) : List FaultConfig :=
  configs.filterMap (Option.filter fun c => decide (Checked c))

/-- The configurations that get a handle. -/
def acceptedConfigs (n : Nat) (configs : List (Option FaultConfig)) : List FaultConfig :=
  (checkedConfigs configs).take n

/-- A sequence of calls of `fault_register`. -/
def registerAll (w : FaultWorld n) (configs : List (Option FaultConfig)) : FaultWorld n :=
  configs.foldl FaultWorld.register w

theorem registerAll_run (w : FaultWorld n) (configs : List (Option FaultConfig)) :
    registerAll w configs = faultRun w (configs.map .register) := by
  unfold registerAll faultRun
  rw [List.foldl_map]
  rfl

theorem register_checked {c : FaultConfig} (hc : Checked c) (h : w.sys.faultCount < n) :
    w.register (some c) = registerDone w c h := by
  unfold FaultWorld.register faultRegister
  dsimp only
  rw [if_neg hc.1, if_neg hc.2, dif_pos h]
  rfl

theorem register_unchecked {config : Option FaultConfig}
    (hc : config.filter (fun c => decide (Checked c)) = none) :
    w.register config = registerRefused w := by
  unfold FaultWorld.register faultRegister
  cases config with
  | none => rfl
  | some c =>
      dsimp only
      by_cases hd : c.detect = none
      · rw [if_pos hd]
        rfl
      · by_cases ho : c.onFault = none
        · rw [if_neg hd, if_pos ho]
          rfl
        · exact absurd hc (by simp [Option.filter, Checked, hd, ho])

theorem register_full (config : Option FaultConfig) (h : ¬w.sys.faultCount < n) :
    w.register config = registerRefused w := by
  rcases register_cases w config with hr | ⟨_, h', _⟩
  · exact hr
  · exact absurd h' h

/-- The registry holds these configurations, and nothing has happened since `fault_init`. -/
structure Registered (cs : List FaultConfig) (w : FaultWorld n) : Prop where
  count : w.sys.faultCount = cs.length
  fault : ∀ (i : Fin n) (c : FaultConfig), cs[i.val]? = some c →
    w.fault i = Fault.zeroed.register c i.val
  blank : ∀ i : Fin n, cs.length ≤ i.val → w.fault i = Fault.zeroed
  handles : ∀ i : Fin n, some i ∈ w.handles → i.val < w.sys.faultCount
  trace : w.trace = []

theorem registered_init (n : Nat) : Registered [] (FaultWorld.init n) where
  count := rfl
  fault := fun _ _ h => absurd h (by simp)
  blank := fun _ _ => rfl
  handles := fun _ h => absurd h (by simp [FaultWorld.init])
  trace := rfl

theorem Registered.refused {cs : List FaultConfig} (hw : Registered cs w) :
    Registered cs (registerRefused w) :=
  ⟨hw.count, hw.fault, hw.blank, registerRefused_handles hw.handles, hw.trace⟩

theorem Registered.done {cs : List FaultConfig} (hw : Registered cs w) (c : FaultConfig)
    (h : w.sys.faultCount < n) : Registered (cs ++ [c]) (registerDone w c h) where
  count := by
    rw [List.length_append, List.length_singleton, ← hw.count]
    rfl
  fault := by
    intro i c' hc'
    by_cases hi : i.val = w.sys.faultCount
    · obtain rfl : i = ⟨w.sys.faultCount, h⟩ := Fin.ext hi
      have hnew : c' = c := by
        rw [List.getElem?_append_right (Nat.le_of_eq hw.count.symm), hw.count, Nat.sub_self] at hc'
        exact (Option.some.inj hc').symm
      rw [registerDone_new, hw.blank _ (Nat.le_of_eq hw.count.symm), hnew]
    · have hlt : i.val < cs.length := by
        have hlen := (List.getElem?_eq_some_iff.mp hc').1
        rw [List.length_append, List.length_singleton] at hlen
        rw [hw.count] at hi
        omega
      rw [List.getElem?_append_left hlt] at hc'
      rw [registerDone_old c h hi]
      exact hw.fault i c' hc'
  blank := by
    intro i hi
    rw [List.length_append, List.length_singleton] at hi
    rw [registerDone_old c h (by rw [hw.count]; omega)]
    exact hw.blank i (by omega)
  handles := registerDone_handles c h hw.handles
  trace := hw.trace

/-- **The registry holds the accepted configurations**, here on top of those it held before. -/
theorem Registered.all : ∀ (configs : List (Option FaultConfig)) {cs : List FaultConfig}
    {w : FaultWorld n}, Registered cs w →
      Registered (cs ++ (checkedConfigs configs).take (n - cs.length)) (registerAll w configs)
  | [], cs, w, hw => by
      show Registered (cs ++ [].take _) w
      rw [List.take_nil, List.append_nil]
      exact hw
  | config :: configs, cs, w, hw => by
      show Registered _ (registerAll (w.register config) configs)
      cases hc : config.filter (fun c => decide (Checked c)) with
      | none =>
          rw [register_unchecked hc]
          have hrest := Registered.all configs hw.refused
          unfold checkedConfigs
          rw [List.filterMap_cons_none hc]
          exact hrest
      | some c =>
          obtain ⟨rfl, hchecked⟩ := Option.filter_eq_some_iff.mp hc
          unfold checkedConfigs
          rw [List.filterMap_cons_some hc]
          by_cases h : w.sys.faultCount < n
          · rw [register_checked (of_decide_eq_true hchecked) h]
            have hrest := Registered.all configs (hw.done c h)
            have hroom : n - cs.length = n - (cs ++ [c]).length + 1 := by
              rw [List.length_append, List.length_singleton, ← hw.count]
              omega
            rw [hroom, List.take_succ_cons, ← List.singleton_append, ← List.append_assoc]
            exact hrest
          · rw [register_full _ h]
            have hfull : n - cs.length = 0 := by
              rw [← hw.count]
              omega
            have hrest := Registered.all configs hw.refused
            rw [hfull, List.take_zero] at hrest ⊢
            exact hrest

theorem registered_all (n : Nat) (configs : List (Option FaultConfig)) :
    Registered (acceptedConfigs n configs) (registerAll (FaultWorld.init n) configs) :=
  (registered_init n).all configs

/-! ## Configurations that are all accepted -/

/-- All of them are, if they pass the check and there is room for them. -/
theorem acceptedConfigs_all {cs : List FaultConfig} (hcs : ∀ c ∈ cs, Checked c)
    (hlen : cs.length ≤ n) : acceptedConfigs n (cs.map some) = cs := by
  have hall : checkedConfigs (cs.map some) = cs := by
    unfold checkedConfigs
    rw [List.filterMap_map]
    induction cs with
    | nil => rfl
    | cons c cs ih =>
        have hc : Checked c := hcs c List.mem_cons_self
        have hrest := ih (fun c' h => hcs c' (List.mem_cons_of_mem c h))
          (Nat.le_of_succ_le hlen)
        rw [List.filterMap_cons_some (b := c) (by simp [Option.filter, hc]), hrest]
  unfold acceptedConfigs
  rw [hall, List.take_of_length_le hlen]

/-- Every handle is the place the fault has in the registry. -/
structure HandlesInOrder (w : FaultWorld n) : Prop where
  length : w.handles.length = w.sys.faultCount
  handle : ∀ (k : Nat) (h : k < n), k < w.sys.faultCount → w.handle k = some ⟨k, h⟩

theorem HandlesInOrder.done (hw : HandlesInOrder w) (c : FaultConfig) (h : w.sys.faultCount < n) :
    HandlesInOrder (registerDone w c h) where
  length := by
    show (w.handles ++ [_]).length = w.sys.faultCount + 1
    rw [List.length_append, hw.length, List.length_singleton]
  handle := by
    intro k hk hlt
    have hlt : k < w.sys.faultCount + 1 := hlt
    show (w.handles ++ [_]).getD k none = _
    rcases Nat.lt_succ_iff_lt_or_eq.mp hlt with hold | hnew
    · rw [List.getD_append _ _ _ _ (by rw [hw.length]; exact hold)]
      exact hw.handle k hk hold
    · subst hnew
      rw [List.getD_append_right _ _ _ _ (Nat.le_of_eq hw.length), hw.length, Nat.sub_self]
      rfl

theorem HandlesInOrder.all : ∀ (cs : List FaultConfig) {w : FaultWorld n}, HandlesInOrder w →
    (∀ c ∈ cs, Checked c) → w.sys.faultCount + cs.length ≤ n →
      HandlesInOrder (registerAll w (cs.map some))
  | [], _, hw, _, _ => hw
  | c :: cs, w, hw, hcs, hroom => by
      rw [List.length_cons] at hroom
      have h : w.sys.faultCount < n := by omega
      show HandlesInOrder (registerAll (w.register (some c)) (cs.map some))
      rw [register_checked (hcs c List.mem_cons_self) h]
      refine HandlesInOrder.all cs (hw.done c h) (fun c' hc => hcs c' (List.mem_cons_of_mem c hc)) ?_
      show w.sys.faultCount + 1 + cs.length ≤ n
      omega

theorem handlesInOrder_init (n : Nat) : HandlesInOrder (FaultWorld.init n) :=
  ⟨rfl, fun k _ h => absurd h (Nat.not_lt_zero k)⟩

end

end FwCore.Proof
