import Mathlib.Data.List.Basic

/-!
# A machine that does what a specification says

A machine takes one input at a time, may get stuck, and gives one answer to each. A
specification is a relation: from this state, to this input, that answer and that
state afterwards may follow. The machine simulates the specification when from
related states, and for an input it is allowed to be given, it does not get stuck
and the specification has a step with the same answer that ends in related states.
Then whole runs go the same way (`Simulates.run`), and what holds of every run of
the specification holds of the machine.
-/

namespace FwCore.Lib

variable {σ τ ι ο : Type}

/-- Take the inputs one after the other, and collect the answers. -/
def runAll (step : σ → ι → Option (σ × ο)) : σ → List ι → Option (σ × List ο)
  | s, [] => some (s, [])
  | s, i :: is => do
    let r ← step s i
    let rest ← runAll step r.1 is
    some (rest.1, r.2 :: rest.2)

/-- Every input of the run is allowed where the machine has got to. -/
def AllowedAll (step : σ → ι → Option (σ × ο)) (allowed : σ → ι → Prop) : σ → List ι → Prop
  | _, [] => True
  | s, i :: is => allowed s i ∧ ∀ r ∈ step s i, AllowedAll step allowed r.1 is

instance decidableAllowedAll (step : σ → ι → Option (σ × ο)) (allowed : σ → ι → Prop)
    [∀ s i, Decidable (allowed s i)] : ∀ (is : List ι) (s : σ),
    Decidable (AllowedAll step allowed s is)
  | [], _ => isTrue trivial
  | i :: is, s =>
    have := decidableAllowedAll step allowed is
    inferInstanceAs (Decidable (allowed s i ∧ ∀ r ∈ step s i, AllowedAll step allowed r.1 is))

/-- A run of a specification: inputs, answers, and where it ends. -/
inductive Traces (spec : τ → ι → ο → τ → Prop) : τ → List ι → List ο → τ → Prop where
  | nil (a : τ) : Traces spec a [] [] a
  | cons {a b c : τ} {i : ι} {is : List ι} {o : ο} {os : List ο} :
      spec a i o b → Traces spec b is os c → Traces spec a (i :: is) (o :: os) c

/-- From related states the machine takes a step, and the specification one like it. -/
def Simulates (step : σ → ι → Option (σ × ο)) (allowed : σ → ι → Prop)
    (spec : τ → ι → ο → τ → Prop) (R : σ → τ → Prop) : Prop :=
  ∀ (s : σ) (a : τ) (i : ι), R s a → allowed s i →
    ∃ s' o b, step s i = some (s', o) ∧ spec a i o b ∧ R s' b

section

variable {step : σ → ι → Option (σ × ο)} {allowed : σ → ι → Prop} {spec : τ → ι → ο → τ → Prop}
  {R : σ → τ → Prop}

theorem runAll_cons {s s' s'' : σ} {i : ι} {is : List ι} {o : ο} {os : List ο}
    (h : step s i = some (s', o)) (h' : runAll step s' is = some (s'', os)) :
    runAll step s (i :: is) = some (s'', o :: os) := by
  rw [runAll, h]
  show (runAll step s' is).bind _ = _
  rw [h']
  rfl

/-- **Runs are simulated too**: the machine gets to the end, with answers of the specification. -/
theorem Simulates.run (h : Simulates step allowed spec R) : ∀ (is : List ι) {s : σ} {a : τ},
    R s a → AllowedAll step allowed s is →
    ∃ s' os b, runAll step s is = some (s', os) ∧ Traces spec a is os b ∧ R s' b
  | [], s, a, hR, _ => ⟨s, [], a, rfl, .nil a, hR⟩
  | i :: is, s, a, hR, hal => by
      obtain ⟨s', o, b, hstep, hspec, hR'⟩ := h s a i hR hal.1
      obtain ⟨s'', os, c, hrun, htr, hR''⟩ := h.run is hR' (hal.2 _ hstep)
      exact ⟨s'', o :: os, c, runAll_cons hstep hrun, .cons hspec htr, hR''⟩

/-- What is so of no inputs, and stays so with one more, is so of every run. -/
theorem Traces.history {P : List ι → List ο → τ → Prop} {a : τ} (h₀ : P [] [] a)
    (hP : ∀ {is os b i o c}, is.length = os.length → P is os b → spec b i o c →
      P (is ++ [i]) (os ++ [o]) c) {is : List ι} {os : List ο} {b : τ}
    (h : Traces spec a is os b) : P is os b := by
  have hgen : ∀ {a b : τ} {is : List ι} {os : List ο}, Traces spec a is os b →
      ∀ js ps, js.length = ps.length → P js ps a → P (js ++ is) (ps ++ os) b := by
    intro a b is os h
    induction h with
    | nil a =>
        intro js ps _ hjs
        rwa [List.append_nil, List.append_nil]
    | @cons a b c i is o os hstep _ ih =>
        intro js ps hlen hjs
        have := ih (js ++ [i]) (ps ++ [o]) (by simp [hlen]) (hP hlen hjs hstep)
        rwa [List.append_assoc, List.append_assoc, List.singleton_append,
          List.singleton_append] at this
  exact hgen h [] [] rfl h₀

end

end FwCore.Lib
