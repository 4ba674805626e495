import FwCore.Proof.SlistSpec

/-!
# Several lists over one memory

What the list code is for: a family of sequences, one to a head, that take no
notice of each other. `Lists` is that family, `none` standing for a head that has
never been initialised, and `listsCall` says what each call does to it.

The simulation `SlistsHold` asks two things of the lists beyond each being held
by its head: their nodes are nodes of the program, and no node is in two of them.
The second is what makes every call local. A call writes the links of nodes of its
own list only, so the other lists cannot have changed.
-/

namespace FwCore.Proof

open FwCore Lib

section

variable {ι : Type}

/-- The sequence behind every head in use. -/
abbrev Lists (ι : Type) := ι → Option (List Nat)

/-- The nodes behind a head, none if it is not in use. -/
def Lists.nodes (L : Lists ι) (i : ι) : List Nat := (L i).getD []

variable {ps : Nat} (sp : NodeSpace ps)

/-- A node of the program that is in no list. -/
def Loose (L : Lists ι) (node : Nat) : Prop := sp.isNode node ∧ ∀ i, node ∉ L.nodes i

/-- The memory and the heads hold the family of lists. -/
structure SlistsHold (w : SlistWorld ι) (L : Lists ι) : Prop where
  /-- Every head in use holds its list. -/
  holds : ∀ i, L i ≠ none → SlistHolds ps w.mem (w.heads i) (L.nodes i)
  /-- The lists are made of nodes. -/
  nodes : ∀ i, ∀ a ∈ L.nodes i, sp.isNode a
  /-- No node is in two lists. -/
  apart : ∀ i j, i ≠ j → ∀ a ∈ L.nodes i, a ∉ L.nodes j

/-- No list is longer than `k`. -/
def Short (L : Lists ι) (k : Nat) : Prop := ∀ i, (L.nodes i).length ≤ k

theorem slistsHold_init (w : SlistWorld ι) : SlistsHold sp w (fun _ => none) where
  holds := fun i hi => absurd rfl hi
  nodes := fun i a ha => absurd ha (by simp [Lists.nodes])
  apart := fun i j _ a ha => absurd ha (by simp [Lists.nodes])

/-- A loose node and the nodes of list `i` are in no other list. -/
theorem SlistsHold.touched {w : SlistWorld ι} {L : Lists ι} (h : SlistsHold sp w L) {i : ι}
    {node : Nat} (hn : Loose sp L node) :
    ∀ a ∈ node :: L.nodes i, sp.isNode a ∧ ∀ j, j ≠ i → a ∉ L.nodes j := by
  intro a ha
  rcases List.mem_cons.mp ha with rfl | ha
  · exact ⟨hn.1, fun j _ => hn.2 j⟩
  · exact ⟨h.nodes i a ha, fun j hj => h.apart i j (Ne.symm hj) a ha⟩

/-! ## The sequences under calls -/

variable [DecidableEq ι]

/-- One call on the sequences. -/
def listsCall (L : Lists ι) : SlistOp ι → SlistAnswer × Lists ι
  | .init i => (.done, Function.update L i (some []))
  | .pushFront i node => (.done, Function.update L i (some (node :: L.nodes i)))
  | .pushBack i node => (.done, Function.update L i (some (L.nodes i ++ [node])))
  | .remove i node => (.done, Function.update L i (some ((L.nodes i).erase node)))
  | .empty i => (.yes (L.nodes i).isEmpty, L)
  | .count i => (.count (UInt32.ofNat (L.nodes i).length), L)
  | .contains i node => (.yes ((L.nodes i).contains node), L)
  | .forEach i => (.seen (L.nodes i), L)

/-- A sequence of calls on the sequences. -/
def listsRun (L : Lists ι) : List (SlistOp ι) → List SlistAnswer × Lists ι
  | [] => ([], L)
  | op :: ops =>
    let r := listsCall L op
    let rest := listsRun r.2 ops
    (r.1 :: rest.1, rest.2)

/-- What a call asks of its caller. -/
def Allowed (L : Lists ι) : SlistOp ι → Prop
  | .init i => L.nodes i = []
  | .pushFront i node | .pushBack i node => L i ≠ none ∧ Loose sp L node
  | op => L op.head ≠ none

/-- What a sequence of calls asks of its caller. -/
def AllowedRun (L : Lists ι) : List (SlistOp ι) → Prop
  | [] => True
  | op :: ops => Allowed sp L op ∧ AllowedRun (listsCall L op).2 ops

/-! ## One list changes -/

@[simp] theorem nodes_update_self (L : Lists ι) (i : ι) (l : List Nat) :
    Lists.nodes (Function.update L i (some l)) i = l := by
  rw [Lists.nodes, Function.update_self]
  rfl

theorem nodes_update_ne (L : Lists ι) {i j : ι} (h : j ≠ i) (l : List Nat) :
    Lists.nodes (Function.update L i (some l)) j = L.nodes j := by
  rw [Lists.nodes, Function.update_of_ne h, Lists.nodes]

/-- A call changes its own sequence only. -/
theorem listsCall_other (L : Lists ι) {op : SlistOp ι} {j : ι} (h : j ≠ op.head) :
    (listsCall L op).2 j = L j := by
  cases op with
  | init i => exact Function.update_of_ne h ..
  | pushFront i node => exact Function.update_of_ne h ..
  | pushBack i node => exact Function.update_of_ne h ..
  | remove i node => exact Function.update_of_ne h ..
  | empty i => rfl
  | count i => rfl
  | contains i node => rfl
  | forEach i => rfl

/--
A call that leaves head `i` holding `l'`, having changed the links of nodes from
its own list and of loose nodes only, leaves a family in which only list `i` is
new.
-/
theorem SlistsHold.put {w : SlistWorld ι} {L : Lists ι} (h : SlistsHold sp w L) {i : ι}
    {r : Mem × SlistHead} {l' touched : List Nat} (hl' : SlistHolds ps r.1 r.2 l')
    (hc : ChangedOnly ps w.mem r.1 touched)
    (ht : ∀ a ∈ touched, sp.isNode a ∧ ∀ j, j ≠ i → a ∉ L.nodes j) (hsub : ∀ a ∈ l', a ∈ touched) :
    SlistsHold sp (w.put i r) (Function.update L i (some l')) where
  holds := by
    intro j hj
    by_cases hji : j = i
    · subst hji
      rw [nodes_update_self, put_head_self]
      exact hl'
    · -- another list: none of its nodes was touched
      rw [nodes_update_ne L hji, put_head_ne w hji]
      rw [Function.update_of_ne hji] at hj
      exact (h.holds j hj).frame sp (h.nodes j) (fun a ha => (ht a ha).1)
        (fun a ha hat => (ht a hat).2 j hji ha) hc
  nodes := by
    intro j a ha
    by_cases hji : j = i
    · subst hji
      rw [nodes_update_self] at ha
      exact (ht a (hsub a ha)).1
    · rw [nodes_update_ne L hji] at ha
      exact h.nodes j a ha
  apart := by
    intro j k hjk a ha hak
    by_cases hji : j = i
    · -- the new list against an old one
      subst hji
      rw [nodes_update_self] at ha
      rw [nodes_update_ne L (Ne.symm hjk)] at hak
      exact (ht a (hsub a ha)).2 k (Ne.symm hjk) hak
    · rw [nodes_update_ne L hji] at ha
      by_cases hki : k = i
      · -- and the other way round
        subst hki
        rw [nodes_update_self] at hak
        exact (ht a (hsub a hak)).2 j hji ha
      · rw [nodes_update_ne L hki] at hak
        exact h.apart j k hjk a ha hak

/-! ## One call, and a sequence of calls -/

/-- **One call answers as the sequences do**, and leaves the heads of the other lists alone. -/
theorem slistCall_refines {w : SlistWorld ι} {L : Lists ι} (h : SlistsHold sp w L) {op : SlistOp ι}
    (hop : Allowed sp L op) {fuel : Nat} (hf : (L.nodes op.head).length < fuel) :
    ∃ w', slistCall ps fuel w op = some ((listsCall L op).1, w')
      ∧ SlistsHold sp w' (listsCall L op).2 := by
  cases op with
  | init i =>
      refine ⟨_, rfl, h.put sp (slistHolds_init w.mem) (ChangedOnly.refl w.mem []) ?_ ?_⟩
      · exact fun a ha => absurd ha (by simp)
      · exact fun a ha => ha
  | pushFront i node =>
      obtain ⟨huse, hn⟩ := hop
      exact ⟨_, rfl, h.put sp (pushFront_holds sp (h.holds i huse) (h.nodes i) hn.1 (hn.2 i))
        (pushFront_changedOnly node) (h.touched sp hn) (fun a ha => ha)⟩
  | pushBack i node =>
      obtain ⟨huse, hn⟩ := hop
      obtain ⟨m', head', hr, hh, hc⟩ :=
        pushBack_holds sp (h.holds i huse) (h.nodes i) hn.1 (hn.2 i) hf
      refine ⟨w.put i (m', head'), ?_, h.put sp hh hc (h.touched sp hn) ?_⟩
      · rw [slistCall, hr]; rfl
      · intro a ha
        rcases List.mem_append.mp ha with ha | ha
        · exact List.mem_cons_of_mem _ ha
        · rw [List.mem_singleton.mp ha]; exact List.mem_cons_self
  | remove i node =>
      obtain ⟨m', head', hr, hh, hc, _⟩ :=
        remove_holds sp (n := node) (h.holds i hop) (h.nodes i) hf
      refine ⟨w.put i (m', head'), ?_, h.put sp hh hc ?_ (fun a ha => List.mem_of_mem_erase ha)⟩
      · rw [slistCall, hr]; rfl
      · exact fun a ha => ⟨h.nodes i a ha, fun j hj => h.apart i j (Ne.symm hj) a ha⟩
  | empty i =>
      refine ⟨w, ?_, h⟩
      rw [slistCall, empty_eq (h.holds i hop), listsCall]
  | count i =>
      refine ⟨w, ?_, h⟩
      rw [slistCall, slistCount, (h.holds i hop).count, listsCall]
  | contains i node =>
      refine ⟨w, ?_, h⟩
      rw [slistCall, contains_eq (h.holds i hop) hf, listsCall]
      rfl
  | forEach i =>
      refine ⟨w, ?_, h⟩
      rw [slistCall, slistForEach_eq _ (h.holds i hop).chain hf, listsCall]
      rfl

/-- A call makes a list longer by one node at most. -/
theorem short_call {L : Lists ι} {k : Nat} (h : Short L k) (op : SlistOp ι) :
    Short (listsCall L op).2 (k + 1) := by
  have hput : ∀ (i : ι) (l : List Nat), l.length ≤ k + 1 →
      Short (Function.update L i (some l)) (k + 1) := by
    intro i l hl j
    by_cases hji : j = i
    · subst hji
      rw [nodes_update_self]
      exact hl
    · rw [nodes_update_ne L hji]
      exact Nat.le_succ_of_le (h j)
  have hkeep : Short L (k + 1) := fun j => Nat.le_succ_of_le (h j)
  cases op with
  | init i => exact hput i [] (by simp)
  | pushFront i node => exact hput i _ (by simpa using h i)
  | pushBack i node => exact hput i _ (by simpa using h i)
  | remove i node =>
      exact hput i _ (Nat.le_succ_of_le (Nat.le_trans List.length_erase_le (h i)))
  | empty i => exact hkeep
  | count i => exact hkeep
  | contains i node => exact hkeep
  | forEach i => exact hkeep

/-- A sequence of calls answers as the sequences do. -/
theorem slistRun_refines {fuel : Nat} : ∀ (ops : List (SlistOp ι)) {w : SlistWorld ι}
    {L : Lists ι} {k : Nat}, SlistsHold sp w L → AllowedRun sp L ops → Short L k →
    k + ops.length < fuel →
    ∃ w', slistRun ps fuel w ops = some ((listsRun L ops).1, w')
      ∧ SlistsHold sp w' (listsRun L ops).2 ∧ Short (listsRun L ops).2 (k + ops.length)
  | [], w, L, k, h, _, hs, _ => ⟨w, rfl, h, hs⟩
  | op :: ops, w, L, k, h, hal, hs, hf => by
      rw [List.length_cons] at hf
      have hlf : (L.nodes op.head).length < fuel := Nat.lt_of_le_of_lt (hs op.head) (by omega)
      have hkf : k + 1 + ops.length < fuel := by omega
      obtain ⟨w₁, hcall, h₁⟩ := slistCall_refines sp h hal.1 hlf
      obtain ⟨w₂, hrun, h₂, hs₂⟩ := slistRun_refines ops h₁ hal.2 (short_call hs op) hkf
      refine ⟨w₂, ?_, h₂, ?_⟩
      · rw [slistRun, hcall]
        simp only [Option.bind_eq_bind, Option.bind_some, hrun]
        rfl
      · rw [List.length_cons, Nat.add_comm ops.length 1, ← Nat.add_assoc]
        exact hs₂

/--
**The intrusive lists refine a family of sequences.**

From heads none of which is in use, over any memory whatever, a sequence of
allowed calls terminates and answers as the sequences do. Afterwards every list in
use is a finite chain that ends in null and has no duplicates, its count is its
length modulo the width of `unsigned`, a traversal sees its nodes once each and in
order, `slist_contains` finds just them, and no other list has any of them. And
`slist_remove` of anything else, be it in another list or in none, changes neither
the head nor a byte of memory, and no call on another list changes the sequence.
-/
theorem slist_refines_sequences (mem : Mem) (heads : ι → SlistHead) (ops : List (SlistOp ι))
    (hal : AllowedRun sp (fun _ => none) ops) (fuel : Nat) (hf : ops.length < fuel) :
    let lists := listsRun (fun _ => none) ops
    ∃ w, slistRun ps fuel ⟨mem, heads⟩ ops = some (lists.1, w)
      ∧ (∀ i j, i ≠ j → ∀ a ∈ lists.2.nodes i, a ∉ lists.2.nodes j)
      ∧ ∀ i, lists.2 i ≠ none →
          Chain (nodeNext ps w.mem) 0 (w.heads i).first (lists.2.nodes i)
          ∧ (lists.2.nodes i).Nodup
          ∧ (slistCount (w.heads i)).toNat = (lists.2.nodes i).length % 2 ^ 32
          ∧ slistForEach ps fuel w.mem (w.heads i).first = some (lists.2.nodes i)
          ∧ (∀ node,
              slistContains ps fuel w.mem (w.heads i) node = some (decide (node ∈ lists.2.nodes i))
              ∧ (node ∉ lists.2.nodes i →
                  slistRemove ps fuel w.mem (w.heads i) node = some (w.mem, w.heads i)))
          ∧ ∀ op, op.head ≠ i → Allowed sp lists.2 op →
              ∃ a w', slistCall ps fuel w op = some (a, w')
                ∧ slistForEach ps fuel w'.mem (w'.heads i).first = some (lists.2.nodes i) := by
  intro lists
  have hshort : Short (fun _ : ι => none) 0 := fun i => by simp [Lists.nodes]
  have hf0 : 0 + ops.length < fuel := by omega
  obtain ⟨w, hrun, h, hs⟩ :=
    slistRun_refines sp ops (slistsHold_init sp ⟨mem, heads⟩) hal hshort hf0
  refine ⟨w, hrun, h.apart, fun i hi => ?_⟩
  have hh := h.holds i hi
  have hlen : ∀ j, (lists.2.nodes j).length < fuel := by
    intro j
    have : (lists.2.nodes j).length ≤ 0 + ops.length := hs j
    omega
  refine ⟨hh.chain, hh.chain.nodup, ?_, slistForEach_eq _ hh.chain (hlen i),
    fun node => ⟨?_, ?_⟩, ?_⟩
  · rw [slistCount, hh.count, UInt32.toNat_ofNat']
  · rw [contains_eq hh (hlen i), List.contains_eq_mem]
  · intro hno
    obtain ⟨m', head', hr, _, _, hsame⟩ := remove_holds sp (n := node) hh (h.nodes i) (hlen i)
    obtain ⟨hm, hhd⟩ := hsame hno
    rw [hr, hm, hhd]
  · intro op hne hop
    obtain ⟨w', hcall, h'⟩ := slistCall_refines sp h hop (hlen op.head)
    have hother := listsCall_other lists.2 (Ne.symm hne)
    have hhi := h'.holds i (by rw [hother]; exact hi)
    refine ⟨_, w', hcall, ?_⟩
    rw [Lists.nodes, hother] at hhi
    exact slistForEach_eq _ hhi.chain (hlen i)

end

/-- Nodes of four bytes, sixteen bytes apart. -/
def spacedNodes : NodeSpace 4 where
  isNode a := a = 16 ∨ a = 32 ∨ a = 48
  nonnull := by omega
  fits := by omega
  apart := by omega

/--
Two lists: a node goes to the front of one, two go to the back of the other, and a
removal from the wrong list does nothing.
-/
theorem slist_refines_sequences_two :
    ∃ w, slistRun 4 9 (⟨fun _ => 0xAB, fun _ => ⟨7, 9⟩⟩ : SlistWorld Bool)
        [.init true, .init false, .pushFront true 16, .pushBack false 32, .pushBack false 48,
          .remove true 32, .forEach false, .remove false 32]
      = some ([.done, .done, .done, .done, .done, .done, .seen [32, 48], .done], w) := by
  obtain ⟨w, hrun, _⟩ := slist_refines_sequences spacedNodes (fun _ => 0xAB)
    (fun _ : Bool => ⟨7, 9⟩)
    [.init true, .init false, .pushFront true 16, .pushBack false 32, .pushBack false 48,
      .remove true 32, .forEach false, .remove false 32]
    (by simp [AllowedRun, Allowed, Loose, listsCall, Lists.nodes, spacedNodes, SlistOp.head,
        Function.update]) 9 (by decide)
  exact ⟨w, hrun⟩

end FwCore.Proof
