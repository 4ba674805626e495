import FwCore.Proof.UprintRender

/-!
# The library's own calls of the printer

A call is a format the compiler has laid out in memory, with its NUL, and some arguments.
`Returns` asks whether what it does is defined. That a format ends where no specifier is cut
off is a matter of looking at it; what is left is the arguments, and `returns_iff` says that
there must be one that fits for each conversion.
-/

namespace FwCore.Proof

open FwCore Lib

/-- The bytes of a string literal. -/
def literalBytes (s : String) : CStr := s.toUTF8.data.toList

/-- The call comes to its end: no argument is missing, and no string is `NULL`. -/
def Returns (call : UprintCall) : Prop :=
  ∀ beyond, ∃ fuel evs, uprint fuel (literalBytes call.fmt) beyond call.args = some evs

/-- A format of the library: no NUL in it, and no specifier cut off. -/
def WellFormed (fmt : CStr) : Prop := 0 ∉ fmt ∧ whole fmt = true

instance (fmt : CStr) : Decidable (WellFormed fmt) := by
  unfold WellFormed
  infer_instance

section

variable {beyond : Nat → UInt8} {pos : Nat} {d : UInt8} {rest : CStr} {args : List UprintArg}

/-- Only an argument that fits can be printed. -/
theorem argFits_of_convert {arg : UprintArg} {bytes : List UInt8}
    (h : uprintConvert d arg = some bytes) : ArgFits d arg := by
  unfold ArgFits
  by_cases hs : d = ascii 's'
  · subst hs
    rw [if_pos rfl]
    intro hnone
    have hbind : uprintConvert (ascii 's') arg
        = arg.string.bind fun s => some (uprintPuts s) := rfl
    rw [hbind, hnone] at h
    exact absurd h (by simp)
  · rw [if_neg hs]
    intro hnone
    unfold uprintConvert at h
    rw [hnone, if_neg hs] at h
    split at h
    · exact absurd h (by simp)
    · split at h
      · exact absurd h (by simp)
      · split at h <;> exact absurd h (by simp)

/-- A specifier that could be printed had its argument, and the others are left for the rest. -/
theorem enoughArgs_of_switch {args' : List UprintArg} {sent : List UprintEvent}
    (hswitch : uprintSwitch pos d args = some (sent, args')) (hrest : EnoughArgs rest args') :
    EnoughArgs (ascii '%' :: d :: rest) args := by
  obtain ⟨used, extra, hargs', hall⟩ := hrest
  unfold EnoughArgs
  rw [conversions, if_pos rfl]
  unfold uprintSwitch at hswitch
  by_cases ht : uprintTakesArg d = true
  · rw [if_pos ht] at hswitch
    rw [if_pos ht]
    cases args with
    | nil => exact absurd hswitch (by simp)
    | cons arg args =>
        dsimp only at hswitch
        cases hconv : uprintConvert d arg with
        | none =>
            rw [hconv] at hswitch
            exact absurd hswitch (by simp)
        | some bytes =>
            rw [hconv] at hswitch
            obtain ⟨_, rfl⟩ := Prod.mk.inj (Option.some.inj hswitch)
            exact ⟨arg :: used, extra, by rw [hargs']; rfl, .cons (argFits_of_convert hconv) hall⟩
  · rw [if_neg ht] at hswitch
    rw [if_neg ht]
    obtain ⟨_, rfl⟩ := Prod.mk.inj (Option.some.inj hswitch)
    exact ⟨used, extra, hargs', hall⟩

/-- **The scanner gets to the end only with an argument for each conversion**, here from any
position on. -/
theorem uprintLoop_enough : ∀ (rest pre : CStr) (args : List UprintArg) (fuel : Nat)
    (evs : List UprintEvent), 0 ∉ rest → whole rest = true →
      uprintLoop (cstrAt (pre ++ rest) beyond) fuel pre.length args = some evs →
        EnoughArgs rest args
  | _, _, _, 0, _, _, _, hrun => absurd hrun (by simp [uprintLoop])
  | [], _, args, _ + 1, _, _, _, _ => enoughArgs_nil args
  | [_], _, args, _ + 1, _, _, _, _ => ⟨[], args, rfl, .nil⟩
  | c :: d :: rest, pre, args, fuel + 1, evs, hnul, hw, hrun => by
      have h0 : c ≠ 0 := fun h => hnul (by simp [h])
      rw [whole] at hw
      rcases uprintLoop_cases h0 hrun with ⟨rfl, sent, args', evs', hswitch, hrun', _⟩
        | ⟨hp, evs', hrun', _⟩
      · rw [if_pos rfl] at hw
        have ih := uprintLoop_enough rest (pre ++ [ascii '%', d]) args' fuel evs'
          (fun h => hnul (List.mem_cons_of_mem _ (List.mem_cons_of_mem _ h))) hw hrun'
        exact enoughArgs_of_switch hswitch ih
      · rw [if_neg hp] at hw
        obtain ⟨used, extra, hargs, hall⟩ := uprintLoop_enough (d :: rest) (pre ++ [c]) args fuel
          evs' (fun h => hnul (List.mem_cons_of_mem c h)) hw hrun'
        refine ⟨used, extra, hargs, ?_⟩
        rw [conversions, if_neg hp]
        exact hall

end

/-- **A call returns exactly if there is a fitting argument for each conversion.** -/
theorem returns_iff {call : UprintCall} (h : WellFormed (literalBytes call.fmt)) :
    Returns call ↔ EnoughArgs (literalBytes call.fmt) call.args := by
  constructor
  · intro hret
    obtain ⟨fuel, evs, hrun⟩ := hret (fun _ => 0)
    exact uprintLoop_enough _ [] call.args fuel evs h.1 h.2 hrun
  · intro hargs beyond
    obtain ⟨evs, hrun, _⟩ := @uprintLoop_inside beyond _ [] call.args
      ((literalBytes call.fmt).length + 1) h.1 h.2 hargs (Nat.lt_succ_self _)
    exact ⟨_, evs, hrun⟩

/-- With as many arguments as conversions, each has to fit. -/
theorem returns_iff_fits {fmt : String} {args : List UprintArg} {specifiers : List UInt8}
    (h : WellFormed (literalBytes fmt)) (hspec : conversions (literalBytes fmt) = specifiers)
    (hlen : args.length = specifiers.length) :
    Returns ⟨fmt, args⟩ ↔ List.Forall₂ ArgFits specifiers args := by
  rw [returns_iff h, EnoughArgs, hspec]
  constructor
  · intro ⟨used, extra, hargs, hall⟩
    have hargs : args = used ++ extra := hargs
    have hextra : extra.length = 0 := by
      have hused := hall.length_eq
      rw [hargs, List.length_append] at hlen
      omega
    rw [List.eq_nil_of_length_eq_zero hextra, List.append_nil] at hargs
    rw [hargs]
    exact hall
  · exact fun hall => ⟨args, [], (List.append_nil args).symm, hall⟩

/-! ## What a call sends -/

/-- The call sends `text`, whatever lies behind its format. -/
def Prints (call : UprintCall) (text : List UInt8) : Prop :=
  ∀ beyond fuel, (literalBytes call.fmt).length < fuel →
    ∃ evs, uprint fuel (literalBytes call.fmt) beyond call.args = some evs ∧ uprintSent evs = text

theorem Prints.unique {call : UprintCall} {text text' : List UInt8} (h : Prints call text)
    (h' : Prints call text') : text = text' := by
  obtain ⟨evs, hrun, hsent⟩ := h (fun _ => 0) _ (Nat.lt_succ_self _)
  obtain ⟨evs', hrun', hsent'⟩ := h' (fun _ => 0) _ (Nat.lt_succ_self _)
  obtain rfl : evs = evs' := Option.some.inj (hrun.symm.trans hrun')
  exact hsent.symm.trans hsent'

/-- Characters that stand for themselves. -/
def literals (s : String) : List FormatPart := (literalBytes s).map .literal

theorem rendered_literals (s : String) (ps : List FormatPart) (args : List UprintArg) :
    rendered (literals s ++ ps) args
      = (rendered ps args).map fun r => (literalBytes s ++ r.1, r.2) := by
  unfold literals
  induction literalBytes s with
  | nil =>
      show rendered ps args = _
      cases rendered ps args with
      | none => rfl
      | some r => rfl
  | cons c s ih =>
      show (rendered (s.map .literal ++ ps) args).map _ = _
      rw [ih]
      cases rendered ps args with
      | none => rfl
      | some r => rfl

/-- A call whose format is made of these parts. -/
theorem prints_of_parts {fmt : String} {args left : List UprintArg} {ps : List FormatPart}
    {out : List UInt8} (hfmt : literalBytes fmt = formatOf ps) (hok : ∀ p ∈ ps, p.Ok)
    (hout : rendered ps args = some (out, left)) : Prints ⟨fmt, args⟩ out := by
  intro beyond fuel hf
  have hrun := @uprintLoop_rendered beyond ps [] args fuel out left hok hout
  rw [hfmt] at hf
  show ∃ evs, uprint fuel (literalBytes fmt) beyond args = some evs ∧ uprintSent evs = out
  rw [hfmt]
  exact hrun hf

/-- The bytes of several messages, one after the other. -/
def Transmits (calls : List UprintCall) (text : List UInt8) : Prop :=
  ∃ texts, List.Forall₂ Prints calls texts ∧ text = texts.flatten

theorem transmits_map {α : Type} {l : List α} {f : α → UprintCall} {text : α → List UInt8}
    (h : ∀ x ∈ l, Prints (f x) (text x)) : Transmits (l.map f) (l.flatMap text) := by
  refine ⟨l.map text, ?_, List.flatMap_def⟩
  rw [List.forall₂_map_left_iff, List.forall₂_map_right_iff, List.forall₂_same]
  exact h

theorem Transmits.append {calls calls' : List UprintCall} {text text' : List UInt8}
    (h : Transmits calls text) (h' : Transmits calls' text') :
    Transmits (calls ++ calls') (text ++ text') := by
  obtain ⟨texts, hall, rfl⟩ := h
  obtain ⟨texts', hall', rfl⟩ := h'
  exact ⟨texts ++ texts', List.rel_append hall hall', List.flatten_append.symm⟩

theorem transmits_single {call : UprintCall} {text : List UInt8} (h : Prints call text) :
    Transmits [call] text := ⟨[text], .cons h .nil, by simp⟩

/-- A decimal numeral begins with a digit. -/
theorem numeralText_digit (n : Nat) :
    ∃ (d : Nat) (ds : List Nat), d < 10 ∧ numeralText 10 n = digitChar d :: ds.map digitChar := by
  have hnum := @numeral_isNumeral 10 (by decide) n
  unfold numeralText
  cases hds : numeral 10 n with
  | nil => exact absurd hds hnum.nonempty
  | cons d ds => exact ⟨d, ds, hnum.digit d (by rw [hds]; exact List.mem_cons_self), rfl⟩

/-- So it does not begin with an `l`. -/
theorem l_ne_numeral (n : Nat) (rest rest' : List UInt8) :
    ascii 'l' :: rest ≠ numeralText 10 n ++ rest' := by
  obtain ⟨d, ds, hd, hnum⟩ := numeralText_digit n
  have hdigit : ∀ d : Fin 10, ascii 'l' ≠ digitChar d.val := by decide
  rw [hnum]
  intro heq
  exact hdigit ⟨d, hd⟩ (List.cons.inj heq).1

end FwCore.Proof
