import Mathlib.Data.Nat.Digits.Defs
import Mathlib.Data.Nat.Digits.Lemmas

/-!
# Numerals

A number is written with the most significant digit first, without leading zeros, and
zero as one digit. `IsNumeral` says so of a list of digits, and `numeral` is the one list
of which it is true. Mathlib's `Nat.digits` has the digits in the other order, and none
for zero.
-/

namespace FwCore.Lib

/-- The number digits stand for, the most significant first. -/
def numeralValue (base : Nat) (ds : List Nat) : Nat := ds.foldl (fun v d => d + base * v) 0

theorem numeralValue_eq (base : Nat) (ds : List Nat) :
    numeralValue base ds = Nat.ofDigits base ds.reverse := by
  rw [Nat.ofDigits_eq_foldr, List.foldr_reverse]
  rfl

/-- `ds` is how the number `n` is written. -/
structure IsNumeral (base n : Nat) (ds : List Nat) : Prop where
  digit : ∀ d ∈ ds, d < base
  value : numeralValue base ds = n
  nonempty : ds ≠ []
  /-- A numeral that begins with a zero is that zero. -/
  lead : ds.head? = some 0 → ds = [0]

/-- The numeral of a number. -/
def numeral (base n : Nat) : List Nat := if n = 0 then [0] else (Nat.digits base n).reverse

variable {base n : Nat} {ds : List Nat}

theorem numeral_zero (base : Nat) : numeral base 0 = [0] := if_pos rfl

theorem numeral_pos (h : n ≠ 0) : numeral base n = (Nat.digits base n).reverse := if_neg h

theorem numeral_isNumeral (hb : 1 < base) (n : Nat) : IsNumeral base n (numeral base n) := by
  by_cases h0 : n = 0
  · subst h0
    rw [numeral_zero]
    refine ⟨fun d hd => ?_, rfl, by simp, fun _ => rfl⟩
    rw [List.mem_singleton.mp hd]
    omega
  · rw [numeral_pos h0]
    have hne : Nat.digits base n ≠ [] := Nat.digits_ne_nil_iff_ne_zero.mpr h0
    refine ⟨fun d hd => ?_, ?_, by simpa using hne, fun hlead => ?_⟩
    · exact Nat.digits_lt_base hb (List.mem_reverse.mp hd)
    · rw [numeralValue_eq, List.reverse_reverse, Nat.ofDigits_digits]
    · -- the most significant digit is none of a number but zero
      rw [List.head?_reverse, List.getLast?_eq_some_getLast hne] at hlead
      exact absurd (Option.some.inj hlead) (Nat.getLast_digit_ne_zero base h0)

/-- **A number is written in one way only.** -/
theorem IsNumeral.unique (hb : 1 < base) (h : IsNumeral base n ds) : ds = numeral base n := by
  by_cases hlead : ds.head? = some 0
  · have hds := h.lead hlead
    have hn : n = 0 := by
      rw [← h.value, hds]
      rfl
    rw [hds, hn, numeral_zero]
  · -- no leading zero, so these are the digits Mathlib has
    have hdigits : Nat.digits base n = ds.reverse := by
      rw [← h.value, numeralValue_eq]
      refine Nat.digits_ofDigits base hb ds.reverse (fun d hd => ?_) (fun hne h0 => hlead ?_)
      · exact h.digit d (List.mem_reverse.mp hd)
      · rw [← List.getLast?_reverse, List.getLast?_eq_some_getLast hne, h0]
    have hn : n ≠ 0 := by
      intro hn
      rw [hn, Nat.digits_zero] at hdigits
      exact h.nonempty (List.reverse_eq_nil_iff.mp hdigits.symm)
    rw [numeral_pos hn, hdigits, List.reverse_reverse]

/-- **And tells which number it is.** -/
theorem numeral_inj (hb : 1 < base) {m : Nat} (h : numeral base n = numeral base m) : n = m := by
  rw [← (numeral_isNumeral hb n).value, h]
  exact (numeral_isNumeral hb m).value

end FwCore.Lib
