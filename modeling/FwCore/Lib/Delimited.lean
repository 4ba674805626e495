import Mathlib.Data.List.Basic

/-!
# Texts that can be taken apart

Where a delimiter occurs in no part on its left, the first one ends that part; where it
occurs in none on its right, the last one begins it. So parts with delimiters between them,
put together, can be told apart again, and so can records that each end with a delimiter.
-/

namespace FwCore.Lib

variable {α β : Type} {d : β} {a a' r r' : List β}

/-- The part before the first delimiter. -/
theorem split_first (ha : d ∉ a) (ha' : d ∉ a') (h : a ++ d :: r = a' ++ d :: r') :
    a = a' ∧ r = r' := by
  induction a generalizing a' with
  | nil =>
      cases a' with
      | nil => exact ⟨rfl, (List.cons.inj h).2⟩
      | cons x a' =>
          have hx : d = x := (List.cons.inj h).1
          exact absurd (hx ▸ List.mem_cons_self) ha'
  | cons x a ih =>
      cases a' with
      | nil =>
          have hx : x = d := (List.cons.inj h).1
          exact absurd (hx ▸ List.mem_cons_self) ha
      | cons x' a' =>
          obtain ⟨rfl, htail⟩ := List.cons.inj h
          obtain ⟨rfl, hr⟩ := ih (fun hd => ha (List.mem_cons_of_mem x hd))
            (fun hd => ha' (List.mem_cons_of_mem x hd)) htail
          exact ⟨rfl, hr⟩

/-- The part behind the last. -/
theorem split_last (hr : d ∉ r) (hr' : d ∉ r') (h : a ++ d :: r = a' ++ d :: r') :
    a = a' ∧ r = r' := by
  have hreverse := congrArg List.reverse h
  simp only [List.reverse_append, List.reverse_cons, List.append_assoc,
    List.singleton_append] at hreverse
  obtain ⟨hr, ha⟩ := split_first (by simpa using hr) (by simpa using hr') hreverse
  exact ⟨List.reverse_injective ha, List.reverse_injective hr⟩

/-- **Records that end with a delimiter.** What comes after the last of them is no record. -/
theorem records_injective {f : α → List β} {tail : List β}
    (htail : ∀ x rest, tail ≠ f x ++ d :: rest) {l l' : List α}
    (hl : ∀ x ∈ l, d ∉ f x) (hl' : ∀ x ∈ l', d ∉ f x)
    (hf : ∀ x ∈ l, ∀ x' ∈ l', f x = f x' → x = x')
    (h : l.flatMap (fun x => f x ++ [d]) ++ tail = l'.flatMap (fun x => f x ++ [d]) ++ tail) :
    l = l' := by
  have hcons : ∀ x l, List.flatMap (fun x => f x ++ [d]) (x :: l) ++ tail
      = f x ++ d :: (l.flatMap (fun x => f x ++ [d]) ++ tail) := by
    intro x l
    rw [List.flatMap_cons, List.append_assoc, List.append_assoc, List.singleton_append]
  induction l generalizing l' with
  | nil =>
      cases l' with
      | nil => rfl
      | cons x' l' =>
          rw [hcons] at h
          exact absurd h (htail _ _)
  | cons x l ih =>
      cases l' with
      | nil =>
          rw [hcons] at h
          exact absurd h.symm (htail _ _)
      | cons x' l' =>
          rw [hcons, hcons] at h
          obtain ⟨hx, hrest⟩ := split_first (hl x List.mem_cons_self) (hl' x' List.mem_cons_self) h
          obtain rfl := hf x List.mem_cons_self x' List.mem_cons_self hx
          rw [ih (fun y hy => hl y (List.mem_cons_of_mem x hy))
            (fun y hy => hl' y (List.mem_cons_of_mem x hy))
            (fun y hy y' hy' => hf y (List.mem_cons_of_mem x hy) y' (List.mem_cons_of_mem x hy'))
            hrest]

end FwCore.Lib
