import Mathlib.Logic.Function.Basic
import FwCore.Lib.Mem

/-!
# The intrusive list (`shared/slist.c`)

A list is a head and the `next` links of the nodes behind it; a node is nothing
but its link, embedded in whatever object it belongs to. The nodes live in byte
memory, a link being a pointer of `ps` bytes, and `NULL` is address zero. The
heads are kept apart from memory, as the program's own variables.

The loops of the source follow links and need not end in a broken list, so here
they take fuel, and are `none` when it runs out.
-/

namespace FwCore

open Lib

/-- `slist_head_t`. -/
structure SlistHead where
  first : Nat
  count : UInt32
deriving DecidableEq, Repr

/-- `node->next`, for pointers of `ps` bytes. -/
def nodeNext (ps : Nat) (m : Mem) (node : Nat) : Nat := m.load node ps

/-- `node->next = v`. -/
def setNext (ps : Nat) (m : Mem) (node v : Nat) : Mem := m.store node ps v

/-- `slist_init`. -/
def slistInit : SlistHead := ⟨0, 0⟩

/-- `slist_push_front`. -/
def slistPushFront (ps : Nat) (m : Mem) (head : SlistHead) (node : Nat) : Mem × SlistHead :=
  (setNext ps m node head.first, { first := node, count := head.count + 1 })

/-- The loop of `slist_push_back`: the last node from `cur` on. -/
def slistLast (ps : Nat) : Nat → Mem → Nat → Option Nat
  | 0, _, _ => none
  | fuel + 1, m, cur =>
    if nodeNext ps m cur ≠ 0 then slistLast ps fuel m (nodeNext ps m cur) else some cur

/-- `slist_push_back`. -/
def slistPushBack (ps fuel : Nat) (m : Mem) (head : SlistHead) (node : Nat) :
    Option (Mem × SlistHead) :=
  let m := setNext ps m node 0
  if head.first = 0 then some (m, { first := node, count := head.count + 1 })
  else do
    let cur ← slistLast ps fuel m head.first
    some (setNext ps m cur node, { head with count := head.count + 1 })

/-- The loop of `slist_remove`. -/
def slistRemoveLoop (ps : Nat) (node : Nat) :
    Nat → Mem → SlistHead → Nat → Nat → Option (Mem × SlistHead)
  | 0, _, _, _, _ => none
  | fuel + 1, m, head, cur, prev =>
    if cur = 0 then some (m, head)
    else if cur = node then
      let (m, head) :=
        if prev = 0 then (m, { head with first := nodeNext ps m cur })
        else (setNext ps m prev (nodeNext ps m cur), head)
      some (setNext ps m node 0, { head with count := head.count - 1 })
    else slistRemoveLoop ps node fuel m head (nodeNext ps m cur) cur

/-- `slist_remove`. -/
def slistRemove (ps fuel : Nat) (m : Mem) (head : SlistHead) (node : Nat) :
    Option (Mem × SlistHead) :=
  slistRemoveLoop ps node fuel m head head.first 0

/-- `slist_empty`. -/
def slistEmpty (head : SlistHead) : Bool := head.first == 0

/-- `slist_count`. -/
def slistCount (head : SlistHead) : UInt32 := head.count

/--
A loop `for (it = cur; it != NULL; it = it->next) if (p(it)) return it; return NULL;`,
the shape of every search through a list in the library.
-/
def slistFind (ps : Nat) (p : Nat → Bool) : Nat → Mem → Nat → Option Nat
  | 0, _, _ => none
  | fuel + 1, m, cur =>
    if cur = 0 then some 0
    else if p cur then some cur
    else slistFind ps p fuel m (nodeNext ps m cur)

/-- `slist_contains`. -/
def slistContains (ps fuel : Nat) (m : Mem) (head : SlistHead) (node : Nat) : Option Bool := do
  let found ← slistFind ps (fun cur => cur == node) fuel m head.first
  some (found != 0)

/-- `slist_for_each`: the nodes the loop body sees, in order. -/
def slistForEach (ps : Nat) : Nat → Mem → Nat → Option (List Nat)
  | 0, _, _ => none
  | fuel + 1, m, pos =>
    if pos = 0 then some []
    else do
      let rest ← slistForEach ps fuel m (nodeNext ps m pos)
      some (pos :: rest)

/-! ## Several lists over one memory -/

/-- The nodes' memory, and the head each name stands for. -/
structure SlistWorld (ι : Type) where
  mem : Mem
  heads : ι → SlistHead

/-- A call, on the list of a given name. -/
inductive SlistOp (ι : Type) where
  | init (i : ι)
  | pushFront (i : ι) (node : Nat)
  | pushBack (i : ι) (node : Nat)
  | remove (i : ι) (node : Nat)
  | empty (i : ι)
  | count (i : ι)
  | contains (i : ι) (node : Nat)
  | forEach (i : ι)
deriving DecidableEq, Repr

/-- The list a call is on. -/
def SlistOp.head {ι : Type} : SlistOp ι → ι
  | .init i | .pushFront i _ | .pushBack i _ | .remove i _ => i
  | .empty i | .count i | .contains i _ | .forEach i => i

/-- What a call answers. -/
inductive SlistAnswer where
  | done
  | yes (b : Bool)
  | count (n : UInt32)
  | seen (nodes : List Nat)
deriving DecidableEq, Repr

section

variable {ι : Type} [DecidableEq ι]

/-- Put a call's memory and head back. -/
def SlistWorld.put (w : SlistWorld ι) (i : ι) (r : Mem × SlistHead) : SlistWorld ι :=
  ⟨r.1, Function.update w.heads i r.2⟩

@[simp] theorem put_head_self (w : SlistWorld ι) (i : ι) (r : Mem × SlistHead) :
    (w.put i r).heads i = r.2 := Function.update_self ..

theorem put_head_ne (w : SlistWorld ι) {i j : ι} (h : j ≠ i) (r : Mem × SlistHead) :
    (w.put i r).heads j = w.heads j := Function.update_of_ne h ..

/-- One call. -/
def slistCall (ps fuel : Nat) (w : SlistWorld ι) : SlistOp ι → Option (SlistAnswer × SlistWorld ι)
  | .init i => some (.done, w.put i (w.mem, slistInit))
  | .pushFront i node => some (.done, w.put i (slistPushFront ps w.mem (w.heads i) node))
  | .pushBack i node => do
    let r ← slistPushBack ps fuel w.mem (w.heads i) node
    some (.done, w.put i r)
  | .remove i node => do
    let r ← slistRemove ps fuel w.mem (w.heads i) node
    some (.done, w.put i r)
  | .empty i => some (.yes (slistEmpty (w.heads i)), w)
  | .count i => some (.count (slistCount (w.heads i)), w)
  | .contains i node => do
    let b ← slistContains ps fuel w.mem (w.heads i) node
    some (.yes b, w)
  | .forEach i => do
    let nodes ← slistForEach ps fuel w.mem (w.heads i).first
    some (.seen nodes, w)

/-- A sequence of calls. -/
def slistRun (ps fuel : Nat) (w : SlistWorld ι) :
    List (SlistOp ι) → Option (List SlistAnswer × SlistWorld ι)
  | [] => some ([], w)
  | op :: ops => do
    let r ← slistCall ps fuel w op
    let rest ← slistRun ps fuel r.2 ops
    some (r.1 :: rest.1, rest.2)

end

end FwCore
