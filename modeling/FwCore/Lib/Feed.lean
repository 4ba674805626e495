import Mathlib.Logic.Basic

/-!
# Feeding a machine

A machine takes one input at a time, may get stuck, and answers with outputs. Fed a
list it takes the inputs one after the other. A machine fed lists is again a machine,
whose inputs are the lists, and feeding it says nothing of where one list ends and the
next begins: `feed_flatten`.
-/

namespace FwCore.Lib

variable {σ α ε : Type}

/-- Feed a list of inputs, and collect the outputs. -/
def feed (step : σ → α → Option (σ × List ε)) : σ → List α → Option (σ × List ε)
  | s, [] => some (s, [])
  | s, a :: as =>
    match step s a with
    | none => none
    | some (s', out) => (feed step s' as).map fun r => (r.1, out ++ r.2)

variable {step : σ → α → Option (σ × List ε)} {s s' s'' : σ} {out out' : List ε}

theorem feed_cons {a : α} {as : List α} (h : step s a = some (s', out))
    (h' : feed step s' as = some (s'', out')) :
    feed step s (a :: as) = some (s'', out ++ out') := by
  unfold feed
  rw [h]
  dsimp only
  rw [h']
  rfl

/-- A machine that got stuck stays stuck, and one that did not goes on from where it is. -/
theorem feed_append (as bs : List α) : feed step s (as ++ bs)
    = match feed step s as with
      | none => none
      | some (s', out) => (feed step s' bs).map fun r => (r.1, out ++ r.2) := by
  induction as generalizing s with
  | nil =>
      rw [List.nil_append, feed]
      dsimp only
      cases feed step s bs with
      | none => rfl
      | some r => rfl
  | cons a as ih =>
      rw [List.cons_append, feed, feed]
      cases step s a with
      | none => rfl
      | some r =>
          dsimp only
          rw [ih]
          cases feed step r.1 as with
          | none => rfl
          | some r' =>
              dsimp only [Option.map_some]
              cases feed step r'.1 bs with
              | none => rfl
              | some r'' =>
                  dsimp only [Option.map_some]
                  rw [List.append_assoc]

/-- **Where a stream is cut does not matter.** -/
theorem feed_flatten (ass : List (List α)) : feed (feed step) s ass = feed step s ass.flatten := by
  induction ass generalizing s with
  | nil => rfl
  | cons as ass ih =>
      rw [List.flatten_cons, feed_append, feed]
      cases feed step s as with
      | none => rfl
      | some r =>
          dsimp only
          rw [ih]

end FwCore.Lib
