import FwCore.Shared.Slist
import FwCore.Lib.Links

/-!
# What each list operation does to one list

The nodes of a program are those of a `Lib.NodeSpace`, and a list operation is
surgery on a `Lib.Chain` through them.

Each theorem says which chain the head has afterwards and, in `ChangedOnly`, which
bytes of memory can have changed: those of the links of the list's own nodes.
That is what keeps two lists in one memory out of each other's way.
-/

namespace FwCore.Proof

open FwCore Lib

/-- A head and the memory hold the list `l`. -/
structure SlistHolds (ps : Nat) (m : Mem) (head : SlistHead) (l : List Nat) : Prop where
  /-- The links from the head run through `l`. -/
  chain : Chain (nodeNext ps m) 0 head.first l
  /-- The count is the length, as far as the type goes. -/
  count : head.count = UInt32.ofNat l.length

/-- Only the links of the given nodes can differ. -/
def ChangedOnly (ps : Nat) (m m' : Mem) (l : List Nat) : Prop :=
  ∀ x, (∀ a ∈ l, x < a ∨ a + ps ≤ x) → m' x = m x

theorem ChangedOnly.refl {ps : Nat} (m : Mem) (l : List Nat) : ChangedOnly ps m m l :=
  fun _ _ => rfl

section

variable {ps : Nat} {m : Mem} {head : SlistHead} {l : List Nat}

theorem setNext_changedOnly {a : Nat} (ha : a ∈ l) (v : Nat) :
    ChangedOnly ps m (setNext ps m a v) l :=
  fun x hx => store_agreeOff m a ps v x (hx a ha)

theorem ChangedOnly.trans {m₁ m₂ m₃ : Mem} (h₁ : ChangedOnly ps m₁ m₂ l)
    (h₂ : ChangedOnly ps m₂ m₃ l) : ChangedOnly ps m₁ m₃ l :=
  fun x hx => (h₂ x hx).trans (h₁ x hx)

variable (sp : NodeSpace ps)

theorem next_set_self {a v : Nat} (hv : v < 256 ^ ps) : nodeNext ps (setNext ps m a v) a = v :=
  load_store_self m hv

include sp in
theorem next_set_other {a b v : Nat} (ha : sp.isNode a) (hb : sp.isNode b) (hne : b ≠ a) :
    nodeNext ps (setNext ps m a v) b = nodeNext ps m b :=
  sp.load_store ha hb hne v

include sp in
/-- A list none of whose nodes is among the changed ones is still there. -/
theorem SlistHolds.frame {m' : Mem} {l' : List Nat} (h : SlistHolds ps m head l)
    (hl : ∀ a ∈ l, sp.isNode a) (hl' : ∀ a ∈ l', sp.isNode a) (hd : ∀ a ∈ l, a ∉ l')
    (hc : ChangedOnly ps m m' l') : SlistHolds ps m' head l where
  chain := by
    refine chain_frame h.chain (fun a ha x h1 h2 => hc x (fun b hb => ?_))
    have hne : a ≠ b := fun he => hd a ha (he ▸ hb)
    have := sp.apart a b (hl a ha) (hl' b hb) hne
    omega
  count := h.count

theorem slistHolds_init (m : Mem) : SlistHolds ps m slistInit [] where
  chain := chain_nil
  count := rfl

theorem ofNat_succ (n : Nat) : UInt32.ofNat (n + 1) = UInt32.ofNat n + 1 :=
  UInt32.ofNat_add n 1

/-! ## Insertion -/

include sp in
theorem pushFront_holds {n : Nat} (h : SlistHolds ps m head l) (hl : ∀ a ∈ l, sp.isNode a)
    (hn : sp.isNode n) (hnl : n ∉ l) :
    SlistHolds ps (slistPushFront ps m head n).1 (slistPushFront ps m head n).2 (n :: l) where
  chain := sp.chain_push h.chain hl hn hnl
  count := by
    rw [List.length_cons, ofNat_succ, ← h.count]
    rfl

theorem pushFront_changedOnly (n : Nat) :
    ChangedOnly ps m (slistPushFront ps m head n).1 (n :: l) :=
  setNext_changedOnly (by simp) head.first

/-- The loop of `slist_push_back` finds the last node. -/
theorem slistLast_eq : ∀ (l : List Nat) {b cur fuel : Nat},
    Chain (nodeNext ps m) 0 cur (l ++ [b]) → l.length < fuel →
    slistLast ps fuel m cur = some b
  | [], b, cur, fuel, h, hf => by
      obtain ⟨hcur, _, ht⟩ := h.uncons
      cases fuel with
      | zero => exact absurd hf (by simp)
      | succ fuel =>
          have hz : nodeNext ps m b = 0 := ht.eq_null
          rw [slistLast, hcur, if_neg (by rw [hz]; simp)]
  | a :: l, b, cur, fuel, h, hf => by
      obtain ⟨hcur, _, ht⟩ := h.uncons
      cases fuel with
      | zero => exact absurd hf (by simp)
      | succ fuel =>
          have hne : nodeNext ps m a ≠ 0 := by
            intro hz
            rw [hz] at ht
            exact absurd ht.head_null (by simp)
          rw [slistLast, hcur, if_pos hne]
          exact slistLast_eq l ht (by simpa using hf)

include sp in
theorem pushBack_holds {n fuel : Nat} (h : SlistHolds ps m head l) (hl : ∀ a ∈ l, sp.isNode a)
    (hn : sp.isNode n) (hnl : n ∉ l) (hf : l.length < fuel) :
    ∃ m' head', slistPushBack ps fuel m head n = some (m', head')
      ∧ SlistHolds ps m' head' (l ++ [n]) ∧ ChangedOnly ps m m' (n :: l) := by
  have hpos : 0 < 256 ^ ps := Nat.pow_pos (by decide)
  have hcnt : head.count + 1 = UInt32.ofNat (l ++ [n]).length := by
    rw [List.length_append, List.length_singleton, ofNat_succ, ← h.count]
  have hc0 : ChangedOnly ps m (setNext ps m n 0) (n :: l) := setNext_changedOnly (by simp) 0
  have hzero : nodeNext ps (setNext ps m n 0) n = 0 := next_set_self hpos
  -- clearing the new node's link disturbs no link of the list
  have hkeep : ∀ a ∈ l, nodeNext ps (setNext ps m n 0) a = nodeNext ps m a :=
    fun a ha => next_set_other sp hn (hl a ha) (fun he => hnl (he ▸ ha))
  rcases List.eq_nil_or_concat l with hnil | ⟨l₀, b, hl₀⟩
  · -- an empty list: the node becomes the head
    subst hnil
    refine ⟨_, _, by rw [slistPushBack, if_pos h.chain.eq_null], ⟨?_, hcnt⟩, hc0⟩
    refine Chain.cons ?_ (sp.nonnull n hn)
    rw [hzero]
    exact chain_nil
  · -- otherwise it is linked behind the last node `b`
    rw [List.concat_eq_append] at hl₀
    subst hl₀
    have hb : sp.isNode b := hl b (by simp)
    have hbn : b ≠ n := fun he => hnl (by simp [he])
    have hfirst : head.first ≠ 0 := by
      intro hz
      have hch := h.chain
      rw [hz] at hch
      exact absurd hch.head_null (by simp)
    have hlast : slistLast ps fuel (setNext ps m n 0) head.first = some b :=
      slistLast_eq l₀ (h.chain.congr hkeep) (by
        rw [List.length_append] at hf; exact Nat.lt_of_le_of_lt (Nat.le_add_right _ _) hf)
    refine ⟨setNext ps (setNext ps m n 0) b n, { head with count := head.count + 1 }, ?_,
      ⟨?_, hcnt⟩, hc0.trans (setNext_changedOnly (by simp) n)⟩
    · rw [slistPushBack, if_neg hfirst, hlast]
      rfl
    · refine h.chain.snoc (sp.nonnull n hn) (next_set_self (sp.fits n hn)) ?_ ?_
      · rw [next_set_other sp hb hn (Ne.symm hbn), hzero]
      · intro a ha
        have hab : a ≠ b := by
          intro he
          have hnd := h.chain.nodup
          rw [List.nodup_append] at hnd
          exact hnd.2.2 a ha b (by simp) he
        rw [next_set_other sp hb (hl a (by simp [ha])) hab, hkeep a (by simp [ha])]

/-! ## Removal -/

include sp in
/--
The loop of `slist_remove`, at a point where it has passed `done` without meeting
the node and still has `rest` to go. `prev` is the last node passed, or null.
-/
theorem removeLoop_spec {n : Nat} : ∀ (rest done : List Nat) {cur prev fuel : Nat},
    SlistHolds ps m head (done ++ rest) → (∀ a ∈ done ++ rest, sp.isNode a) →
    Chain (nodeNext ps m) 0 cur rest →
    (done = [] ∧ prev = 0 ∨ ∃ l₀, done = l₀ ++ [prev]) → n ∉ done → rest.length < fuel →
    (n ∉ rest ∧ slistRemoveLoop ps n fuel m head cur prev = some (m, head))
      ∨ ∃ m' head' r₁ r₂, rest = r₁ ++ n :: r₂
        ∧ slistRemoveLoop ps n fuel m head cur prev = some (m', head')
        ∧ SlistHolds ps m' head' (done ++ (r₁ ++ r₂)) ∧ ChangedOnly ps m m' (done ++ rest)
  | [], done, cur, prev, fuel, _, _, hcur, _, _, hf => by
      left
      cases fuel with
      | zero => exact absurd hf (by simp)
      | succ fuel => exact ⟨by simp, by rw [slistRemoveLoop, if_pos hcur.eq_null]⟩
  | a :: rest, done, cur, prev, fuel, h, hl, hcur, hprev, hnd, hf => by
      obtain ⟨hca, ha0, ht⟩ := hcur.uncons
      cases fuel with
      | zero => exact absurd hf (by simp)
      | succ fuel =>
        subst hca
        rw [slistRemoveLoop, if_neg ha0]
        by_cases han : cur = n
        · -- found: unlink it, from the head or from its predecessor
          right
          subst han
          have hpos : 0 < 256 ^ ps := Nat.pow_pos (by decide)
          have hnode : sp.isNode cur := hl cur (by simp)
          have hnodup := h.chain.nodup
          have hnr : cur ∉ rest := by
            rw [List.nodup_append] at hnodup
            exact (List.nodup_cons.mp hnodup.2.1).1
          have hcnt : head.count - 1 = UInt32.ofNat (done ++ ([] ++ rest)).length := by
            rw [h.count]
            simp only [List.length_append, List.length_cons, List.length_nil, Nat.zero_add]
            rw [← Nat.add_assoc, ofNat_succ]
            grind
          have hnext : nodeNext ps m cur < 256 ^ ps := by
            cases rest with
            | nil => rw [ht.eq_null]; exact hpos
            | cons c rest => rw [ht.uncons.1]; exact sp.fits c (hl c (by simp))
          rw [if_pos rfl]
          rcases hprev with ⟨hdone, hp0⟩ | ⟨l₀, hdone⟩
          · -- the head led to it
            subst hdone
            rw [if_pos hp0]
            refine ⟨_, _, [], rest, rfl, rfl, ⟨?_, hcnt⟩, setNext_changedOnly (by simp) 0⟩
            exact ht.congr (fun b hb =>
              next_set_other sp hnode (hl b (by simp [hb])) (fun he => hnr (he ▸ hb)))
          · -- its predecessor led to it, and now leads to what follows
            subst hdone
            have hp : sp.isNode prev := hl prev (by simp)
            have hpc : prev ≠ cur := fun he => hnd (by simp [he])
            rw [if_neg (sp.nonnull prev hp)]
            refine ⟨_, _, [], rest, rfl, rfl, ⟨?_, hcnt⟩,
              (setNext_changedOnly (by simp) _).trans (setNext_changedOnly (by simp) 0)⟩
            have hch : Chain (nodeNext ps m) 0 head.first (l₀ ++ prev :: cur :: rest) := by
              have := h.chain
              simpa using this
            have hres : Chain
                (nodeNext ps (setNext ps (setNext ps m prev (nodeNext ps m cur)) cur 0))
                0 head.first (l₀ ++ prev :: rest) := by
              refine hch.unlink ?_ ?_
              · rw [next_set_other sp hnode hp hpc, next_set_self hnext]
              · -- the links before `prev` and after `cur` are as they were
                intro b hb
                have hbn : sp.isNode b := hl b (by
                  rcases List.mem_append.mp hb with hb | hb
                  · simp [hb]
                  · simp [hb])
                have hbp : b ≠ prev ∧ b ≠ cur := by
                  have hnd' : (l₀ ++ prev :: cur :: rest).Nodup := hch.nodup
                  rw [List.nodup_append] at hnd'
                  obtain ⟨_, hnd2, hdis⟩ := hnd'
                  rw [List.nodup_cons, List.nodup_cons] at hnd2
                  rcases List.mem_append.mp hb with hb | hb
                  · exact ⟨hdis b hb prev (by simp), hdis b hb cur (by simp)⟩
                  · exact ⟨fun he => hnd2.1 (by simp [← he, hb]), fun he => hnd2.2.1 (he ▸ hb)⟩
                rw [next_set_other sp hnode hbn hbp.2, next_set_other sp hp hbn hbp.1]
            simpa using hres
        · -- not yet: the node passed becomes `prev`
          rw [if_neg han]
          have happ : done ++ cur :: rest = (done ++ [cur]) ++ rest := by simp
          have ih := removeLoop_spec rest (done ++ [cur]) (by rw [← happ]; exact h)
            (by rw [← happ]; exact hl) ht (Or.inr ⟨done, rfl⟩)
            (by simp only [List.mem_append, List.mem_singleton, not_or]
                exact ⟨hnd, fun he => han he.symm⟩)
            (Nat.lt_of_succ_lt_succ hf)
          rcases ih with ⟨hno, hr⟩ | ⟨m', head', r₁, r₂, hr, he, hh, hc⟩
          · left
            refine ⟨?_, hr⟩
            simp only [List.mem_cons, not_or]
            exact ⟨fun he => han he.symm, hno⟩
          · right
            refine ⟨m', head', cur :: r₁, r₂, by rw [hr]; rfl, he, ?_, ?_⟩
            · simpa using hh
            · rw [happ]; exact hc

include sp in
/-- Removing a node deletes it, and does nothing at all if the node is not in this list. -/
theorem remove_holds {n fuel : Nat} (h : SlistHolds ps m head l) (hl : ∀ a ∈ l, sp.isNode a)
    (hf : l.length < fuel) :
    ∃ m' head', slistRemove ps fuel m head n = some (m', head')
      ∧ SlistHolds ps m' head' (l.erase n) ∧ ChangedOnly ps m m' l
      ∧ (n ∉ l → m' = m ∧ head' = head) := by
  rcases removeLoop_spec sp l [] h hl h.chain (Or.inl ⟨rfl, rfl⟩) (by simp) hf (n := n) with
    ⟨hno, hr⟩ | ⟨m', head', r₁, r₂, hr, he, hh, hc⟩
  · -- not in this list, whatever other list it may be in
    refine ⟨m, head, hr, ?_, ChangedOnly.refl m l, fun _ => ⟨rfl, rfl⟩⟩
    rw [List.erase_of_not_mem hno]
    exact h
  · -- in the list once, so what the loop unlinked is what `erase` deletes
    refine ⟨m', head', he, ?_, hc, fun hno => absurd (by rw [hr]; simp) hno⟩
    have hn1 : n ∉ r₁ := by
      have hnd := h.chain.nodup
      rw [hr, List.nodup_append] at hnd
      exact fun hm => hnd.2.2 n hm n (by simp) rfl
    rw [hr, List.erase_append_right _ hn1, List.erase_cons_head]
    exact hh

/-! ## Traversal -/

/-- A search through a list is a search through its chain. -/
theorem slistFind_eq (p : Nat → Bool) : ∀ (l : List Nat) {cur fuel : Nat},
    Chain (nodeNext ps m) 0 cur l → l.length < fuel →
    slistFind ps p fuel m cur = some ((l.find? p).getD 0)
  | [], cur, fuel, h, hf => by
      cases fuel with
      | zero => exact absurd hf (by simp)
      | succ fuel => rw [slistFind, if_pos h.eq_null]; rfl
  | a :: l, cur, fuel, h, hf => by
      obtain ⟨hca, ha0, ht⟩ := h.uncons
      cases fuel with
      | zero => exact absurd hf (by simp)
      | succ fuel =>
        subst hca
        rw [slistFind, if_neg ha0]
        cases hp : p cur with
        | true => rw [if_pos rfl, List.find?_cons_of_pos hp]; rfl
        | false =>
            rw [if_neg (by simp), List.find?_cons_of_neg (by simp [hp])]
            exact slistFind_eq p l ht (Nat.lt_of_succ_lt_succ hf)

/-- `slist_for_each` sees the chain, each node once and in order. -/
theorem slistForEach_eq : ∀ (l : List Nat) {cur fuel : Nat},
    Chain (nodeNext ps m) 0 cur l → l.length < fuel → slistForEach ps fuel m cur = some l
  | [], cur, fuel, h, hf => by
      cases fuel with
      | zero => exact absurd hf (by simp)
      | succ fuel => rw [slistForEach, if_pos h.eq_null]
  | a :: l, cur, fuel, h, hf => by
      obtain ⟨hca, ha0, ht⟩ := h.uncons
      cases fuel with
      | zero => exact absurd hf (by simp)
      | succ fuel =>
        subst hca
        rw [slistForEach, if_neg ha0, slistForEach_eq l ht (Nat.lt_of_succ_lt_succ hf)]
        rfl

theorem contains_eq {n fuel : Nat} (h : SlistHolds ps m head l) (hf : l.length < fuel) :
    slistContains ps fuel m head n = some (l.contains n) := by
  rw [slistContains, slistFind_eq _ l h.chain hf]
  show some _ = some _
  congr 1
  rw [Bool.eq_iff_iff, bne_iff_ne, List.contains_iff_mem]
  cases hfind : l.find? (fun cur => cur == n) with
  | none =>
      rw [List.find?_eq_none] at hfind
      refine ⟨fun h0 => absurd rfl h0, fun hm => absurd (hfind n hm) (by simp)⟩
  | some a =>
      have ha : a = n := by simpa using List.find?_some hfind
      have hm := List.mem_of_find?_eq_some hfind
      refine ⟨fun _ => ha ▸ hm, fun _ => h.chain.nonnull a hm⟩

theorem empty_eq (h : SlistHolds ps m head l) : slistEmpty head = l.isEmpty := by
  rw [slistEmpty, Bool.eq_iff_iff, beq_iff_eq, List.isEmpty_iff]
  constructor
  · intro hz
    have hch := h.chain
    rw [hz] at hch
    exact hch.head_null
  · intro hl
    have hch := h.chain
    rw [hl] at hch
    exact hch.eq_null

end

end FwCore.Proof
