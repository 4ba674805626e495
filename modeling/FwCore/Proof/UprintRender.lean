import FwCore.Proof.UprintScan
import FwCore.Lib.Numeral

/-!
# What the printer sends

A format is read here as what it is made of, its parts: characters that stand for
themselves, conversions, and a `%` before a character that is no conversion (another `%`,
in what the formats are meant to be). `rendered` says what the parts come to, each
conversion taking the next argument, and `uprint` sends just that.

Numbers are rendered as their `numeral`. The loop that finds it works from the last digit
backwards and never runs out of the twelve bytes.
-/

namespace FwCore.Proof

open FwCore Lib

/-! ## The parts of a format -/

/-- A conversion that takes an argument. -/
inductive Conversion where
  | decimal
  | unsigned
  | hex
  | string
  | character
deriving DecidableEq, Repr

/-- The character behind the `%`. -/
def Conversion.specifier : Conversion → UInt8
  | .decimal => ascii 'd'
  | .unsigned => ascii 'u'
  | .hex => ascii 'x'
  | .string => ascii 's'
  | .character => ascii 'c'

/-- A part of a format. -/
inductive FormatPart where
  | literal (c : UInt8)
  | convert (k : Conversion)
  /-- A `%`, and a character that is no conversion. -/
  | escape (c : UInt8)
deriving DecidableEq, Repr

/-- How it is spelled. -/
def FormatPart.text : FormatPart → CStr
  | .literal c => [c]
  | .convert k => [ascii '%', k.specifier]
  | .escape c => [ascii '%', c]

/-- A part that is what it says. -/
def FormatPart.Ok : FormatPart → Prop
  | .literal c => c ≠ 0 ∧ c ≠ ascii '%'
  | .convert _ => True
  | .escape c => c ≠ 0 ∧ uprintTakesArg c = false

instance (p : FormatPart) : Decidable p.Ok := by
  cases p <;> unfold FormatPart.Ok <;> infer_instance

/-- A format made of parts. -/
def formatOf (ps : List FormatPart) : CStr := ps.flatMap FormatPart.text

/-! ## What they come to -/

/-- A digit, the ones above nine in upper case. -/
def digitChar (d : Nat) : UInt8 := UInt8.ofNat (if d < 10 then 48 + d else 55 + d)

/-- A number, as it is printed. -/
def numeralText (base n : Nat) : List UInt8 := (numeral base n).map digitChar

/-- An integer, as it is printed: a sign if it is negative, and its magnitude. -/
def intText (i : Int) : List UInt8 :=
  if i < 0 then ascii '-' :: numeralText 10 i.natAbs else numeralText 10 i.natAbs

/-- What a conversion makes of an argument, if it is one for it. -/
def argText : Conversion → UprintArg → Option (List UInt8)
  | .decimal, arg => arg.word.map fun w => intText w.toInt32.toInt
  | .unsigned, arg => arg.word.map fun w => numeralText 10 w.toNat
  | .hex, arg => arg.word.map fun w => numeralText 16 w.toNat
  | .string, arg => arg.string.map fun s => s.takeWhile (· ≠ 0)
  | .character, arg => arg.word.map fun w => [w.toUInt8]

/-- What a format comes to, and the arguments it leaves. -/
def rendered : List FormatPart → List UprintArg → Option (List UInt8 × List UprintArg)
  | [], args => some ([], args)
  | .literal c :: ps, args => (rendered ps args).map fun r => (c :: r.1, r.2)
  | .escape c :: ps, args => (rendered ps args).map fun r => (c :: r.1, r.2)
  | .convert _ :: _, [] => none
  | .convert k :: ps, arg :: args =>
    match argText k arg with
    | none => none
    | some text => (rendered ps args).map fun r => (text ++ r.1, r.2)

/-! ## Numbers -/

theorem uprintDigit_eq {i : UInt32} (h : i.toNat < 16) : uprintDigit i = digitChar i.toNat := by
  have hall : ∀ n : Fin 16, uprintDigit (UInt32.ofNat n.val) = digitChar n.val := by decide
  have hi := hall ⟨i.toNat, h⟩
  rw [UInt32.ofNat_toNat] at hi
  exact hi

theorem digitChar_ne_zero {d : Nat} (h : d < 16) : digitChar d ≠ 0 := by
  have hall : ∀ n : Fin 16, digitChar n.val ≠ 0 := by decide
  exact hall ⟨d, h⟩

/-- The loop puts the digits of a number in front of what the buffer holds. -/
theorem uprintPutuLoop_digits (base : UInt8) (hlo : 2 ≤ base.toNat) (hhi : base.toNat ≤ 16) :
    ∀ (room : Nat) (n : UInt32) (buf : List UInt8), n.toNat < base.toNat ^ room →
      uprintPutuLoop base room n buf
        = some ((Nat.digits base.toNat n.toNat).reverse.map digitChar ++ buf)
  | 0, n, buf, h => by
      have h0 : n = 0 := by
        apply UInt32.toNat.inj
        rw [Nat.pow_zero] at h
        show n.toNat = 0
        omega
      subst h0
      rw [uprintPutuLoop, if_pos rfl, UInt32.toNat_zero, Nat.digits_zero]
      rfl
  | room + 1, n, buf, h => by
      rw [uprintPutuLoop]
      by_cases h0 : n = 0
      · subst h0
        rw [if_pos rfl, UInt32.toNat_zero, Nat.digits_zero]
        rfl
      · have hpos : 0 < n.toNat := Nat.pos_of_ne_zero (fun hn => h0 (UInt32.toNat.inj hn))
        have hdigit : (n % base.toUInt32).toNat = n.toNat % base.toNat := by
          rw [UInt32.toNat_mod, UInt8.toNat_toUInt32]
        have hrest : (n / base.toUInt32).toNat = n.toNat / base.toNat := by
          rw [UInt32.toNat_div, UInt8.toNat_toUInt32]
        have hsmall : n.toNat % base.toNat < 16 :=
          Nat.lt_of_lt_of_le (Nat.mod_lt _ (by omega)) hhi
        rw [if_neg h0, uprintPutuLoop_digits base hlo hhi room, hrest,
          uprintDigit_eq (by rw [hdigit]; exact hsmall), hdigit,
          Nat.digits_def' (by omega) hpos, List.reverse_cons, List.map_append, List.append_assoc]
        · rfl
        · rw [hrest]
          rw [Nat.pow_succ, Nat.mul_comm] at h
          exact Nat.div_lt_of_lt_mul h

/-- What is sent of a text and the NUL behind it is the text. -/
theorem uprintPuts_text {text : List UInt8} (h : ∀ c ∈ text, c ≠ 0) (rest : List UInt8) :
    uprintPuts (text ++ 0 :: rest) = text := by
  unfold uprintPuts
  rw [List.takeWhile_append_of_pos (by simpa using h), List.takeWhile_cons_of_neg (by simp),
    List.append_nil]

/-- **`uprint_putu` sends the numeral of its argument.** -/
theorem uprintPutu_eq (base : UInt8) (hlo : 10 ≤ base.toNat) (hhi : base.toNat ≤ 16) (n : UInt32) :
    uprintPutu n base = some (numeralText base.toNat n.toNat) := by
  unfold uprintPutu
  by_cases h0 : n = 0
  · subst h0
    rw [if_pos rfl, UInt32.toNat_zero, numeralText, numeral_zero]
    rfl
  · have hne : n.toNat ≠ 0 := fun hn => h0 (UInt32.toNat.inj hn)
    have hpow : 10 ^ 11 ≤ base.toNat ^ 11 := Nat.pow_le_pow_left hlo 11
    have hlt := n.toNat_lt
    have htext : ∀ c ∈ (Nat.digits base.toNat n.toNat).reverse.map digitChar, c ≠ 0 := by
      intro c hc
      obtain ⟨d, hd, rfl⟩ := List.mem_map.mp hc
      have hdb := Nat.digits_lt_base (by omega) (List.mem_reverse.mp hd)
      exact digitChar_ne_zero (by omega)
    rw [if_neg h0, uprintPutuLoop_digits base (by omega) hhi 11 n [0] (by omega), Option.map_some,
      uprintPuts_text htext, numeralText, numeral_pos hne]

/-- The magnitude is taken in 64 bits, so the least integer has one as well. -/
theorem neg_magnitude {n : Int32} (h : n < 0) :
    (-n.toInt64).toUInt64.toUInt32.toNat = n.toInt.natAbs := by
  have hneg : n.toInt < 0 := Int32.lt_iff_toInt_lt.mp h
  have hlo := n.le_toInt
  have hwide : (n.toBitVec.signExtend 64).toInt = n.toInt :=
    BitVec.toInt_signExtend_of_le (by decide)
  rw [BitVec.toInt_eq_toNat_cond] at hwide
  have hnat := (n.toBitVec.signExtend 64).isLt
  show (-(n.toBitVec.signExtend 64)).toNat % 2 ^ 32 = _
  rw [BitVec.toNat_neg]
  split at hwide <;> omega

theorem nonneg_magnitude {n : Int32} (h : ¬n < 0) : n.toUInt32.toNat = n.toInt.natAbs := by
  have hpos : ¬n.toInt < 0 := fun hn => h (Int32.lt_iff_toInt_lt.mpr hn)
  have hint : n.toBitVec.toInt = n.toInt := rfl
  rw [BitVec.toInt_eq_toNat_cond] at hint
  have hnat := n.toBitVec.isLt
  show n.toBitVec.toNat = _
  split at hint <;> omega

theorem uprintPuti_eq (n : Int32) : uprintPuti n = some (intText n.toInt) := by
  have hsign : n < 0 ↔ n.toInt < 0 := Int32.lt_iff_toInt_lt
  unfold uprintPuti intText
  by_cases h : n < 0
  · rw [if_pos h, if_pos (hsign.mp h), uprintPutu_eq 10 (by decide) (by decide),
      neg_magnitude h]
    rfl
  · rw [if_neg h, if_neg (fun hn => h (hsign.mpr hn)),
      uprintPutu_eq 10 (by decide) (by decide), nonneg_magnitude h]
    rfl

/-! ## The scanner -/

theorem takesArg_specifier (k : Conversion) : uprintTakesArg k.specifier = true := by
  cases k <;> decide

/-- **A conversion sends what `argText` says.** -/
theorem uprintConvert_eq (k : Conversion) (arg : UprintArg) :
    uprintConvert k.specifier arg = argText k arg := by
  have hword : ∀ {f : UInt32 → Option (List UInt8)} {g : UInt32 → List UInt8},
      (∀ w, f w = some (g w)) → arg.word.bind f = arg.word.map g := by
    intro f g hfg
    cases arg.word with
    | none => rfl
    | some w => exact hfg w
  cases k with
  | decimal => exact hword fun w => uprintPuti_eq w.toInt32
  | unsigned => exact hword fun w => uprintPutu_eq 10 (by decide) (by decide) w
  | hex => exact hword fun w => uprintPutu_eq 16 (by decide) (by decide) w
  | string =>
      show (arg.string.bind fun s => some (uprintPuts s)) = arg.string.map uprintPuts
      cases arg.string with
      | none => rfl
      | some s => rfl
  | character => exact hword fun w => rfl

/-- A conversion takes one argument. -/
theorem uprintSwitch_convert (pos : Nat) {k : Conversion} {arg : UprintArg} {text : List UInt8}
    (args : List UprintArg) (h : argText k arg = some text) :
    uprintSwitch pos k.specifier (arg :: args) = some (text.map (.send (.arg arg)), args) := by
  unfold uprintSwitch
  rw [if_pos (takesArg_specifier k)]
  dsimp only
  rw [uprintConvert_eq, h]

/-- Any other character behind a `%` takes none. -/
theorem uprintSwitch_escape (pos : Nat) {c : UInt8} (args : List UprintArg)
    (h : uprintTakesArg c = false) :
    uprintSwitch pos c args = some ([.send (.fmt pos) c], args) := by
  unfold uprintSwitch
  rw [if_neg (by rw [h]; simp)]

/-- The bytes an `uprint` sends. -/
def uprintSent (evs : List UprintEvent) : List UInt8 :=
  evs.filterMap fun
    | .send _ b => some b
    | .examine _ => none

theorem uprintSent_append (evs evs' : List UprintEvent) :
    uprintSent (evs ++ evs') = uprintSent evs ++ uprintSent evs' := List.filterMap_append

theorem uprintSent_send (source : UprintSource) (bytes : List UInt8) :
    uprintSent (bytes.map (.send source)) = bytes := by
  induction bytes with
  | nil => rfl
  | cons b bytes ih => exact congrArg (b :: ·) ih

section Scan

variable {beyond : Nat → UInt8}

/-- A `%` and the character behind it, and what the scanner does from there. -/
theorem uprintLoop_specifier {pre rest : CStr} {d : UInt8} {args args' : List UprintArg}
    {sent : List UprintEvent} {fuel : Nat} {out : List UInt8}
    (hswitch : uprintSwitch (pre.length + 1) d args = some (sent, args'))
    (hrest : ∃ evs, uprintLoop (cstrAt (pre ++ [ascii '%', d] ++ rest) beyond) fuel
      (pre ++ [ascii '%', d]).length args' = some evs ∧ uprintSent evs = out) :
    ∃ evs, uprintLoop (cstrAt (pre ++ ascii '%' :: d :: rest) beyond) (fuel + 1) pre.length args
      = some evs ∧ uprintSent evs = uprintSent sent ++ out := by
  obtain ⟨evs, hrun, hout⟩ := hrest
  have hfmt : pre ++ [ascii '%', d] ++ rest = pre ++ ascii '%' :: d :: rest := by simp
  have hnext : (pre ++ [ascii '%']).length = pre.length + 1 := by simp
  have hp := cstrAt_char beyond pre (ascii '%') (d :: rest)
  have hd := cstrAt_char beyond (pre ++ [ascii '%']) d rest
  rw [List.append_assoc, List.singleton_append, hnext] at hd
  rw [hfmt, show (pre ++ [ascii '%', d]).length = pre.length + 2 by simp] at hrun
  rw [uprintLoop_percent hp, hd, hswitch]
  dsimp only
  rw [hrun]
  refine ⟨_, rfl, ?_⟩
  show uprintSent (sent ++ evs) = _
  rw [uprintSent_append, hout]

/-- **The scanner sends what the format comes to**, here from any position on. -/
theorem uprintLoop_rendered : ∀ (ps : List FormatPart) (pre : CStr) (args : List UprintArg)
    (fuel : Nat) (out : List UInt8) (left : List UprintArg), (∀ p ∈ ps, p.Ok) →
    rendered ps args = some (out, left) → (formatOf ps).length < fuel →
      ∃ evs, uprintLoop (cstrAt (pre ++ formatOf ps) beyond) fuel pre.length args = some evs
        ∧ uprintSent evs = out
  | [], pre, args, fuel + 1, out, left, _, hout, _ => by
      obtain ⟨rfl, _⟩ := Prod.mk.inj (Option.some.inj hout)
      refine ⟨_, uprintLoop_end ?_, rfl⟩
      show cstrAt (pre ++ []) beyond pre.length = 0
      rw [List.append_nil]
      exact cstrAt_end beyond pre
  | .literal c :: ps, pre, args, fuel + 1, out, left, hok, hout, hf => by
      obtain ⟨h0, hp⟩ : c ≠ 0 ∧ c ≠ ascii '%' := hok (.literal c) List.mem_cons_self
      obtain ⟨r, hr, heq⟩ := Option.map_eq_some_iff.mp hout
      obtain ⟨rfl, rfl⟩ := Prod.mk.inj heq
      obtain ⟨evs, hrun, hsent⟩ := uprintLoop_rendered ps (pre ++ [c]) args fuel r.1 r.2
        (fun p h => hok p (List.mem_cons_of_mem _ h)) hr (Nat.lt_of_succ_lt_succ hf)
      rw [List.append_assoc, List.length_append, List.length_singleton] at hrun
      have hc := cstrAt_char beyond pre c (formatOf ps)
      show ∃ evs, uprintLoop (cstrAt (pre ++ c :: formatOf ps) beyond) _ _ _ = some evs ∧ _
      rw [uprintLoop_literal (by rw [hc]; exact h0) (by rw [hc]; exact hp), hc]
      rw [List.singleton_append] at hrun
      rw [hrun]
      exact ⟨_, rfl, congrArg (c :: ·) hsent⟩
  | .escape c :: ps, pre, args, fuel + 1, out, left, hok, hout, hf => by
      obtain ⟨_, htakes⟩ : c ≠ 0 ∧ uprintTakesArg c = false := hok (.escape c) List.mem_cons_self
      obtain ⟨r, hr, heq⟩ := Option.map_eq_some_iff.mp hout
      obtain ⟨rfl, rfl⟩ := Prod.mk.inj heq
      have hlen : (formatOf ps).length < fuel := by
        have : (formatOf (.escape c :: ps)).length = (formatOf ps).length + 2 := rfl
        omega
      have hswitch := uprintSwitch_escape (pre.length + 1) args htakes
      exact uprintLoop_specifier hswitch (uprintLoop_rendered ps (pre ++ [ascii '%', c]) args fuel
        r.1 r.2 (fun p h => hok p (List.mem_cons_of_mem _ h)) hr hlen)
  | .convert k :: ps, pre, [], fuel + 1, out, left, _, hout, _ => absurd hout (by simp [rendered])
  | .convert k :: ps, pre, arg :: args, fuel + 1, out, left, hok, hout, hf => by
      rw [rendered] at hout
      cases htext : argText k arg with
      | none =>
          rw [htext] at hout
          exact absurd hout (by simp)
      | some text =>
          rw [htext] at hout
          obtain ⟨r, hr, heq⟩ := Option.map_eq_some_iff.mp hout
          obtain ⟨rfl, rfl⟩ := Prod.mk.inj heq
          have hlen : (formatOf ps).length < fuel := by
            have : (formatOf (.convert k :: ps)).length = (formatOf ps).length + 2 := rfl
            omega
          have hswitch := uprintSwitch_convert (pre.length + 1) args htext
          obtain ⟨evs, hrun, hsent⟩ := uprintLoop_specifier hswitch
            (uprintLoop_rendered ps (pre ++ [ascii '%', k.specifier]) args fuel r.1 r.2
              (fun p h => hok p (List.mem_cons_of_mem _ h)) hr hlen)
          rw [uprintSent_send] at hsent
          exact ⟨evs, hrun, hsent⟩

end Scan

/-! ## The formats the printer is made for -/

/-- A character of its own, a conversion, or `%%`. -/
def FormatPart.Supported : FormatPart → Prop
  | .literal c => c ≠ 0 ∧ c ≠ ascii '%'
  | .convert _ => True
  | .escape c => c = ascii '%'

instance (p : FormatPart) : Decidable p.Supported := by
  cases p <;> unfold FormatPart.Supported <;> infer_instance

theorem FormatPart.Supported.ok {p : FormatPart} (h : p.Supported) : p.Ok := by
  cases p with
  | literal c => exact h
  | convert k => trivial
  | escape c =>
      obtain rfl : c = ascii '%' := h
      exact ⟨by decide, by decide⟩

/-- The conversions of a format, in order. -/
def conversionsIn (ps : List FormatPart) : List Conversion :=
  ps.filterMap fun
    | .convert k => some k
    | _ => none

/-- An argument for a conversion: a string for `%s`, a 32-bit integer for the others. -/
def Conversion.Takes : Conversion → UprintArg → Prop
  | .string, .str (some _) => True
  | .string, _ => False
  | _, .signed _ | _, .unsigned _ => True
  | _, .str _ => False

theorem Conversion.Takes.text {k : Conversion} {arg : UprintArg} (h : k.Takes arg) :
    ∃ text, argText k arg = some text := by
  cases arg with
  | unsigned v => cases k <;> first | exact ⟨_, rfl⟩ | exact absurd h (by simp [Conversion.Takes])
  | signed v => cases k <;> first | exact ⟨_, rfl⟩ | exact absurd h (by simp [Conversion.Takes])
  | str s =>
      cases s with
      | none => cases k <;> exact absurd h (by simp [Conversion.Takes])
      | some s =>
          cases k <;> first | exact ⟨_, rfl⟩ | exact absurd h (by simp [Conversion.Takes])

/-- Arguments for the conversions, one each, are used up; what comes behind them is left. -/
theorem rendered_takes (extra : List UprintArg) : ∀ (ps : List FormatPart) (args : List UprintArg),
    List.Forall₂ Conversion.Takes (conversionsIn ps) args →
      ∃ out, rendered ps (args ++ extra) = some (out, extra)
  | [], _, .nil => ⟨[], rfl⟩
  | .literal c :: ps, args, h => by
      obtain ⟨out, hout⟩ := rendered_takes extra ps args h
      exact ⟨c :: out, by rw [rendered, hout]; rfl⟩
  | .escape c :: ps, args, h => by
      obtain ⟨out, hout⟩ := rendered_takes extra ps args h
      exact ⟨c :: out, by rw [rendered, hout]; rfl⟩
  | .convert k :: ps, arg :: args, .cons harg h => by
      obtain ⟨text, htext⟩ := harg.text
      obtain ⟨out, hout⟩ := rendered_takes extra ps args h
      exact ⟨text ++ out, by rw [List.cons_append, rendered, htext, hout]; rfl⟩

/-- `text` is the number `n`, written without leading zeros. -/
def NumeralText (base n : Nat) (text : List UInt8) : Prop :=
  ∃ ds, IsNumeral base n ds ∧ text = ds.map digitChar

theorem numeralText_iff {base : Nat} (hb : 1 < base) (n : Nat) (text : List UInt8) :
    NumeralText base n text ↔ text = numeralText base n := by
  constructor
  · intro ⟨ds, hds, htext⟩
    rw [htext, hds.unique hb, numeralText]
  · intro htext
    exact ⟨numeral base n, numeral_isNumeral hb n, htext⟩

/-- An `int` passed for a `%d` is printed as it is. -/
theorem argText_signed (v : Int32) : argText .decimal (.signed v) = some (intText v.toInt) := by
  show some (intText v.toUInt32.toInt32.toInt) = _
  rw [Int32.toInt32_toUInt32]

/--
**`uprint` renders the formats it is made for.**

For every format of characters, the conversions `%d`, `%u`, `%x`, `%s` and `%c`, and `%%`,
whatever lies behind it in memory, and a fitting argument for each conversion, with any
others behind them: the printer returns, and has sent what the parts come to, each
conversion having taken the next argument and no other. A number comes to the one text
that denotes it without leading zeros. The printer returning says that the digits stayed
in their buffer.
-/
theorem uprint_rendered (ps : List FormatPart) (args extra : List UprintArg)
    (hps : ∀ p ∈ ps, p.Supported)
    (hargs : List.Forall₂ Conversion.Takes (conversionsIn ps) args) :
    (∃ out, rendered ps (args ++ extra) = some (out, extra)
        ∧ ∀ (beyond : Nat → UInt8) (fuel : Nat), (formatOf ps).length < fuel →
          ∃ evs, uprint fuel (formatOf ps) beyond (args ++ extra) = some evs
            ∧ uprintSent evs = out)
      ∧ (∀ n text, NumeralText 10 n text ↔ text = numeralText 10 n)
      ∧ (∀ n text, NumeralText 16 n text ↔ text = numeralText 16 n)
      ∧ (∀ v, argText .decimal (.signed v) = some (intText v.toInt))
      ∧ (∀ pos k arg rest text, argText k arg = some text →
        uprintSwitch pos k.specifier (arg :: rest) = some (text.map (.send (.arg arg)), rest))
      ∧ ∀ pos rest, uprintSwitch pos (ascii '%') rest
        = some ([.send (.fmt pos) (ascii '%')], rest) := by
  refine ⟨?_, numeralText_iff (by decide), numeralText_iff (by decide), argText_signed,
    fun pos k arg rest text h => uprintSwitch_convert pos rest h,
    fun pos rest => uprintSwitch_escape pos rest (by decide)⟩
  obtain ⟨out, hout⟩ := rendered_takes extra ps args hargs
  refine ⟨out, hout, fun beyond fuel hf => ?_⟩
  exact uprintLoop_rendered ps [] (args ++ extra) fuel out extra (fun p hp => (hps p hp).ok) hout hf

/-- The format `%d %x%%`. -/
def leastAndHex : List FormatPart :=
  [.convert .decimal, .literal (ascii ' '), .convert .hex, .escape (ascii '%')]

/-- The least integer, and a number with digits beyond nine: `-2147483648 BEEF%`. -/
theorem uprint_rendered_least :
    ∃ evs, uprint 9 (formatOf leastAndHex) (fun _ => 37) [.signed (-2147483648), .unsigned 0xBEEF]
        = some evs
      ∧ uprintSent evs = [45, 50, 49, 52, 55, 52, 56, 51, 54, 52, 56, 32, 66, 69, 69, 70, 37] := by
  obtain ⟨⟨out, hout, hrun⟩, _⟩ := uprint_rendered leastAndHex
    [.signed (-2147483648), .unsigned 0xBEEF] [] (by decide) (.cons trivial (.cons trivial .nil))
  obtain ⟨evs, hevs, hsent⟩ := hrun (fun _ => 37) 9 (by decide)
  refine ⟨evs, hevs, hsent.trans ?_⟩
  have htext : rendered leastAndHex [.signed (-2147483648), .unsigned 0xBEEF]
      = some ([45, 50, 49, 52, 55, 52, 56, 51, 54, 52, 56, 32, 66, 69, 69, 70, 37], []) := by
    decide
  exact (Prod.mk.inj (Option.some.inj (hout.symm.trans htext))).1

end FwCore.Proof
