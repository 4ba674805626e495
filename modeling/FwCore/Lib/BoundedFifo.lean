import Mathlib.Logic.Basic

/-!
# A first-in first-out queue of bounded capacity

The abstract behaviour of a fixed-size queue: items leave in the order they came,
and an operation that cannot be carried out is refused and changes nothing.
-/

namespace FwCore.Lib

variable {α : Type}

/-- A queue of at most `cap` items, oldest first. -/
structure BoundedFifo (α : Type) (cap : Nat) where
  items : List α
  bounded : items.length ≤ cap

variable {cap : Nat}

/-- The queue nothing has been put into. -/
def BoundedFifo.empty : BoundedFifo α cap := ⟨[], Nat.zero_le _⟩

/-- Append an item if there is room. -/
def BoundedFifo.write (q : BoundedFifo α cap) (x : α) : Bool × BoundedFifo α cap :=
  if h : q.items.length < cap then
    (true, ⟨q.items ++ [x], by rw [List.length_append]; exact h⟩)
  else (false, q)

/-- Take the oldest item, if there is one. -/
def BoundedFifo.read (q : BoundedFifo α cap) : Option α × BoundedFifo α cap :=
  match h : q.items with
  | [] => (none, q)
  | x :: xs => (some x, ⟨xs, by have := q.bounded; rw [h, List.length_cons] at this; omega⟩)

/-- Whether there is nothing to take. -/
def BoundedFifo.isEmpty (q : BoundedFifo α cap) : Bool := q.items.isEmpty

theorem BoundedFifo.write_room {q : BoundedFifo α cap} (h : q.items.length < cap) (x : α) :
    (q.write x).1 = true ∧ (q.write x).2.items = q.items ++ [x] := by
  unfold BoundedFifo.write
  rw [dif_pos h]
  exact ⟨rfl, rfl⟩

theorem BoundedFifo.write_full {q : BoundedFifo α cap} (h : ¬q.items.length < cap) (x : α) :
    q.write x = (false, q) := by
  unfold BoundedFifo.write
  rw [dif_neg h]

theorem BoundedFifo.read_nil {q : BoundedFifo α cap} (h : q.items = []) : q.read = (none, q) := by
  unfold BoundedFifo.read
  split
  · rfl
  · rename_i x xs he
    rw [h] at he
    exact absurd he (by simp)

theorem BoundedFifo.read_cons {q : BoundedFifo α cap} {x : α} {xs : List α}
    (h : q.items = x :: xs) : q.read.1 = some x ∧ q.read.2.items = xs := by
  unfold BoundedFifo.read
  split
  · rename_i he
    rw [h] at he
    exact absurd he (by simp)
  · rename_i y ys he
    rw [h] at he
    obtain ⟨h1, h2⟩ := List.cons.inj he
    exact ⟨by rw [h1], h2.symm⟩

end FwCore.Lib
