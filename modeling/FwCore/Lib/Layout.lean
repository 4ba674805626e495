import FwCore.Lib.Mem

/-!
# Structs in byte memory

A struct has members at offsets, each so many bytes wide, that do not overlap. `get`
and `set` read and assign one; `setAll` is a row of assignments. What an assignment
does to the rest of memory is in one notion, `Only`: nothing has changed but some of
the members of the struct at one address.
-/

namespace FwCore.Lib

variable {ι : Type}

/-- Where the members of a struct are. -/
structure Layout (ι : Type) where
  size : Nat
  members : List ι
  offset : ι → Nat
  width : ι → Nat
  inside : ∀ i ∈ members, offset i + width i ≤ size
  apart : ∀ i ∈ members, ∀ j ∈ members, i ≠ j →
    offset i + width i ≤ offset j ∨ offset j + width j ≤ offset i

namespace Layout

/-- `p->i`. -/
def get (L : Layout ι) (m : Mem) (p : Nat) (i : ι) : Nat := m.load (p + L.offset i) (L.width i)

/-- `p->i = v`. -/
def set (L : Layout ι) (m : Mem) (p : Nat) (i : ι) (v : Nat) : Mem :=
  m.store (p + L.offset i) (L.width i) v

/-- Assignments to members, in order. -/
def setAll (L : Layout ι) (m : Mem) (p : Nat) (vs : List (ι × Nat)) : Mem :=
  vs.foldl (fun m iv => L.set m p iv.1 iv.2) m

/-- The bytes of a member. -/
def At (L : Layout ι) (p : Nat) (i : ι) (x : Nat) : Prop :=
  p + L.offset i ≤ x ∧ x < p + L.offset i + L.width i

/-- Nothing has changed but members of `is` of the struct at `p`. -/
def Only (L : Layout ι) (p : Nat) (is : List ι) (m m' : Mem) : Prop :=
  ∀ x, (∀ i ∈ is, ¬L.At p i x) → m' x = m x

variable {L : Layout ι} {m m' m'' : Mem} {p v x : Nat} {i j : ι} {is js : List ι}

/-- Members have no byte in common. -/
theorem at_unique (hi : i ∈ L.members) (hj : j ∈ L.members) (hx : L.At p i x) (hx' : L.At p j x) :
    i = j := by
  by_contra hne
  obtain ⟨hlo, hhi⟩ := hx
  obtain ⟨hlo', hhi'⟩ := hx'
  rcases L.apart i hi j hj hne with h | h
  · omega
  · omega

theorem at_inside (hi : i ∈ L.members) (hx : L.At p i x) : p ≤ x ∧ x < p + L.size := by
  obtain ⟨hlo, hhi⟩ := hx
  have := L.inside i hi
  omega

/-- A member depends on its own bytes only. -/
theorem get_congr (h : ∀ x, L.At p i x → m' x = m x) : L.get m' p i = L.get m p i :=
  load_congr (fun x hlo hhi => h x ⟨hlo, hhi⟩)

@[simp] theorem get_set_self (hv : v < 256 ^ L.width i) : L.get (L.set m p i v) p i = v :=
  load_store_self m hv

theorem set_only (m : Mem) (p : Nat) (i : ι) (v : Nat) : L.Only p [i] m (L.set m p i v) := by
  intro x hx
  have hno : ¬L.At p i x := hx i List.mem_cons_self
  refine store_agreeOff m (p + L.offset i) (L.width i) v x ?_
  by_contra hin
  exact hno ⟨by omega, by omega⟩

theorem Only.refl (p : Nat) (is : List ι) (m : Mem) : L.Only p is m m := fun _ _ => rfl

theorem Only.trans (h : L.Only p is m m') (h' : L.Only p is m' m'') : L.Only p is m m'' :=
  fun x hx => (h' x hx).trans (h x hx)

theorem Only.mono (h : L.Only p is m m') (hs : is ⊆ js) : L.Only p js m m' :=
  fun x hx => h x (fun i hi => hx i (hs hi))

/-- The members that may not have changed have not. -/
theorem Only.get_eq (h : L.Only p is m m') (his : is ⊆ L.members) (hj : j ∈ L.members)
    (hno : j ∉ is) : L.get m' p j = L.get m p j := by
  refine get_congr (fun x hx => h x (fun i hi hx' => ?_))
  have hij := at_unique hj (his hi) hx hx'
  exact hno (hij ▸ hi)

theorem get_set_of_ne (hi : i ∈ L.members) (hj : j ∈ L.members) (hne : j ≠ i) :
    L.get (L.set m p i v) p j = L.get m p j :=
  (set_only m p i v).get_eq (List.cons_subset.mpr ⟨hi, List.nil_subset _⟩) hj
    (fun h => hne (List.mem_singleton.mp h))

/-! ## Rows of assignments -/

@[simp] theorem setAll_cons (m : Mem) (p : Nat) (iv : ι × Nat) (vs : List (ι × Nat)) :
    L.setAll m p (iv :: vs) = L.setAll (L.set m p iv.1 iv.2) p vs := rfl

theorem setAll_only (m : Mem) (p : Nat) (vs : List (ι × Nat)) :
    L.Only p (vs.map Prod.fst) m (L.setAll m p vs) := by
  induction vs generalizing m with
  | nil => exact Only.refl p _ m
  | cons iv vs ih =>
      have hset : L.Only p [iv.1] m (L.set m p iv.1 iv.2) := set_only m p iv.1 iv.2
      exact (hset.mono (by simp)).trans ((ih _).mono (by simp))

theorem get_setAll_of_notMem (hj : j ∈ L.members) {vs : List (ι × Nat)}
    (hvs : vs.map Prod.fst ⊆ L.members) (hno : j ∉ vs.map Prod.fst) :
    L.get (L.setAll m p vs) p j = L.get m p j :=
  (setAll_only m p vs).get_eq hvs hj hno

/-- A member assigned once has that value afterwards. -/
theorem get_setAll_of_mem (hi : i ∈ L.members) (hv : v < 256 ^ L.width i) {vs : List (ι × Nat)}
    (hvs : vs.map Prod.fst ⊆ L.members) (hnd : (vs.map Prod.fst).Nodup) (hm : (i, v) ∈ vs) :
    L.get (L.setAll m p vs) p i = v := by
  induction vs generalizing m with
  | nil => exact absurd hm (by simp)
  | cons iv vs ih =>
      rw [List.map_cons, List.cons_subset] at hvs
      rw [List.map_cons, List.nodup_cons] at hnd
      rw [setAll_cons]
      rcases List.mem_cons.mp hm with rfl | hm
      · rw [get_setAll_of_notMem hi hvs.2 hnd.1]
        exact get_set_self hv
      · exact ih hvs.2 hnd.2 hm

end Layout

end FwCore.Lib
