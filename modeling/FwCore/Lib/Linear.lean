import Mathlib.Logic.Basic

/-!
# Calls that overlap, and an object that answers at once

Several parties make calls, each in several steps, and the steps come in any order. Some
steps bring a call to its end. If each of these does what an atomic object does when it is
called, and no other step shows, then the calls, in the order in which they come to their
ends, have the answers of the object called in that order. A call comes to its end between
its first step and its last, so the order is one that an observer cannot contradict.
-/

namespace FwCore.Lib

variable {σ τ C A Q : Type}

/-- Call the object, in order. -/
def callAll (call : Q → C → A × Q) (q : Q) : List C → List A × Q
  | [] => ([], q)
  | c :: cs =>
    let r := call q c
    let rest := callAll call r.2 cs
    (r.1 :: rest.1, rest.2)

/-- The calls that a schedule brings to their ends, with their answers. -/
def completed (step : σ → τ → σ) (done : σ → τ → Option (C × A)) : σ → List τ → List (C × A)
  | _, [] => []
  | s, t :: ts => (done s t).toList ++ completed step done (step s t) ts

/-- The steps stand for calls of the object. -/
structure Linearizes (step : σ → τ → σ) (done : σ → τ → Option (C × A)) (call : Q → C → A × Q)
    (Rep : σ → Q → Prop) : Prop where
  /-- A step that ends no call does not show. -/
  quiet : ∀ {s q} t, Rep s q → done s t = none → Rep (step s t) q
  /-- A step that ends a call is the call. -/
  point : ∀ {s q} t {c a}, Rep s q → done s t = some (c, a) →
    (call q c).1 = a ∧ Rep (step s t) (call q c).2

variable {step : σ → τ → σ} {done : σ → τ → Option (C × A)} {call : Q → C → A × Q}
  {Rep : σ → Q → Prop} {s : σ} {q : Q}

/-- **The completed calls are answered as the object answers them**, one at a time. -/
theorem Linearizes.run (h : Linearizes step done call Rep) (hs : Rep s q) (ts : List τ) :
    (callAll call q ((completed step done s ts).map Prod.fst)).1
        = (completed step done s ts).map Prod.snd
      ∧ Rep (ts.foldl step s) (callAll call q ((completed step done s ts).map Prod.fst)).2 := by
  induction ts generalizing s q with
  | nil => exact ⟨rfl, hs⟩
  | cons t ts ih =>
      rw [completed, List.foldl_cons]
      cases hdone : done s t with
      | none => exact ih (h.quiet t hs hdone)
      | some e =>
          obtain ⟨c, a⟩ := e
          obtain ⟨hanswer, hrep⟩ := h.point t hs hdone
          obtain ⟨hrest, hend⟩ := ih hrep
          refine ⟨?_, hend⟩
          rw [Option.toList_some, List.singleton_append, List.map_cons, List.map_cons, callAll]
          dsimp only
          rw [hanswer, hrest]

end FwCore.Lib
