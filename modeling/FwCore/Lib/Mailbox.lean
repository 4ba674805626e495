import Mathlib.Data.List.Chain

/-!
# A one-place mailbox

A producer puts letters into a single slot, a consumer takes out what it finds. A
letter put into a full slot replaces the one that was there. Nothing is ever
duplicated or reordered: what has been taken, and then what is in the slot, are the
letters put less those replaced (`mailRun_survivors`), and these are all of them exactly
when no two are put without a visit in between (`survivors_eq_puts_iff`).
-/

namespace FwCore.Lib

/-- What can happen to a mailbox. -/
inductive MailOp (α : Type) where
  | put (a : α)
  | take
deriving DecidableEq, Repr

/-- The slot, and the letters taken so far. -/
structure Mailbox (α : Type) where
  slot : Option α
  taken : List α

section

variable {α : Type}

/-- What has reached the consumer or is waiting for it. -/
def Mailbox.letters (m : Mailbox α) : List α := m.taken ++ m.slot.toList

def mailStep (m : Mailbox α) : MailOp α → Mailbox α
  | .put a => { m with slot := some a }
  | .take => ⟨none, m.taken ++ m.slot.toList⟩

def mailRun (m : Mailbox α) (ops : List (MailOp α)) : Mailbox α := ops.foldl mailStep m

theorem mailRun_append (m : Mailbox α) (xs ys : List (MailOp α)) :
    mailRun m (xs ++ ys) = mailRun (mailRun m xs) ys := List.foldl_append

/-- The letter an operation puts in. -/
def MailOp.letter : MailOp α → Option α
  | .put a => some a
  | .take => none

/-- The letters put, in order. -/
def puts (ops : List (MailOp α)) : List α := ops.filterMap MailOp.letter

/-- The letters put that are not replaced: those that no other put follows at once. -/
def survivors : List (MailOp α) → List α
  | [] => []
  | .take :: ops => survivors ops
  | .put _ :: .put b :: ops => survivors (.put b :: ops)
  | .put a :: .take :: ops => a :: survivors ops
  | [.put a] => [a]

/-- Two letters in a row. -/
def Collide (x y : MailOp α) : Prop := x.letter ≠ none ∧ y.letter ≠ none

/-- **Taken and waiting are the survivors**, from a mailbox whose slot is empty. -/
theorem mailRun_survivors (taken : List α) :
    ∀ ops : List (MailOp α), (mailRun ⟨none, taken⟩ ops).letters = taken ++ survivors ops
  | [] => rfl
  | .take :: ops => by
      -- nothing was waiting
      rw [survivors, ← mailRun_survivors taken ops]
      show (mailRun ⟨none, taken ++ []⟩ ops).letters = _
      rw [List.append_nil]
  | .put a :: .put b :: ops => mailRun_survivors taken (.put b :: ops)
  | .put a :: .take :: ops => by
      have ih := mailRun_survivors (taken ++ [a]) ops
      rw [List.append_assoc, List.singleton_append] at ih
      exact ih
  | [.put a] => rfl

theorem puts_append (xs ys : List (MailOp α)) : puts (xs ++ ys) = puts xs ++ puts ys :=
  List.filterMap_append

theorem puts_cons_put (a : α) (ops : List (MailOp α)) : puts (.put a :: ops) = a :: puts ops := rfl

/-- A replaced letter is lost, and no other comes in its place. -/
theorem survivors_length_le : ∀ ops : List (MailOp α), (survivors ops).length ≤ (puts ops).length
  | [] => Nat.le_refl 0
  | .take :: ops => survivors_length_le ops
  | .put a :: .put b :: ops => by
      have ih := survivors_length_le (.put b :: ops)
      rw [puts_cons_put a, List.length_cons]
      exact Nat.le_succ_of_le ih
  | .put a :: .take :: ops => Nat.succ_le_succ (survivors_length_le ops)
  | [.put a] => Nat.le_refl 1

/-- **All letters survive exactly when none is put on top of another.** -/
theorem survivors_eq_puts_iff :
    ∀ ops : List (MailOp α), survivors ops = puts ops ↔ ops.IsChain fun x y => ¬Collide x y
  | [] => by simp [survivors, puts]
  | .take :: ops => by
      have hchain : (MailOp.take :: ops).IsChain (fun x y : MailOp α => ¬Collide x y)
          ↔ ops.IsChain fun x y => ¬Collide x y := by
        rw [List.isChain_cons]
        exact ⟨fun h => h.2, fun h => ⟨fun y _ hc => hc.1 rfl, h⟩⟩
      rw [hchain, ← survivors_eq_puts_iff ops]
      rfl
  | .put a :: .put b :: ops => by
      -- the first letter is lost: too few survive
      have hlen := survivors_length_le (.put b :: ops)
      constructor
      · intro h
        have := congrArg List.length h
        rw [survivors, puts_cons_put a, List.length_cons] at this
        omega
      · intro h
        exact absurd ⟨by simp [MailOp.letter], by simp [MailOp.letter]⟩
          (List.isChain_cons_cons.mp h).1
  | .put a :: .take :: ops => by
      have ih := survivors_eq_puts_iff ops
      have hchain : (MailOp.put a :: .take :: ops).IsChain (fun x y : MailOp α => ¬Collide x y)
          ↔ ops.IsChain fun x y => ¬Collide x y := by
        rw [List.isChain_cons_cons, List.isChain_cons]
        exact ⟨fun h => h.2.2, fun h => ⟨fun hc => hc.2 rfl, fun y _ hc => hc.1 rfl, h⟩⟩
      rw [hchain, ← ih]
      show a :: survivors ops = a :: puts ops ↔ _
      exact List.cons_inj_right a
  | [.put a] => by simp [survivors, puts, MailOp.letter]

end

end FwCore.Lib
