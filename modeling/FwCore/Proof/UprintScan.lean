import FwCore.Core.Uprint
import Mathlib.Data.List.DropRight
import Mathlib.Data.List.TakeWhile
import Mathlib.Data.Nat.ModEq

/-!
# How far the printer looks

The scanner of `uprint` advances in two places, by one for a literal character and
by two for a `%` and what follows it. What follows may be the NUL: then `default`
sends it and the scanner goes on behind it, with no end in sight that the caller
knows of. So the scanner stays inside a format exactly if the format does not end in
a `%` that opens a specifier, which is to say that the `%`s at its end are even in
number (`whole_iff`).
-/

namespace FwCore.Proof

open FwCore

/-! ## Formats that end where a specifier does not -/

/-- No specifier is cut off by the end of the format. -/
def whole : CStr → Bool
  | [] => true
  | [c] => c ≠ ascii '%'
  | c :: d :: rest => if c = ascii '%' then whole rest else whole (d :: rest)

/-- The number of `%`s a format ends in. -/
def percentsAtEnd (fmt : CStr) : Nat := (fmt.rtakeWhile (· = ascii '%')).length

/-- A format of `%`s only ends in all of them. -/
theorem percentsAtEnd_all {s : CStr} (h : ∀ d ∈ s, d = ascii '%') :
    percentsAtEnd s = s.length := by
  unfold percentsAtEnd
  rw [List.rtakeWhile_eq_self_iff.mpr]
  intro d hd
  rw [h d hd]
  decide

/-- Otherwise the first character does not count. -/
theorem percentsAtEnd_cons {c : UInt8} {s : CStr} (h : ¬ ∀ d ∈ c :: s, d = ascii '%') :
    percentsAtEnd (c :: s) = percentsAtEnd s := by
  unfold percentsAtEnd List.rtakeWhile
  rw [List.length_reverse, List.length_reverse, List.reverse_cons, List.takeWhile_append]
  by_cases hlen : (s.reverse.takeWhile (· = ascii '%')).length = s.reverse.length
  · -- `s` is `%`s only, so the first character is none
    have hself := (List.takeWhile_prefix (· = ascii '%')).eq_of_length hlen
    have hc : c ≠ ascii '%' := by
      intro hc
      refine h fun d hd => ?_
      rcases List.mem_cons.mp hd with rfl | hd
      · exact hc
      · have hd' := List.takeWhile_eq_self_iff.mp hself d (List.mem_reverse.mpr hd)
        exact of_decide_eq_true hd'
    rw [if_pos hlen, List.takeWhile_cons_of_neg (by simp [hc]), List.append_nil, hself]
  · rw [if_neg hlen]

/-- **A specifier is cut off exactly if the `%`s at the end are odd in number.** -/
theorem whole_iff : ∀ fmt : CStr, whole fmt = true ↔ percentsAtEnd fmt % 2 = 0
  | [] => by decide
  | [c] => by
      rw [whole]
      by_cases hc : c = ascii '%'
      · rw [percentsAtEnd_all (by simp [hc])]
        simp [hc]
      · rw [percentsAtEnd_cons (by simp [hc])]
        simp [hc, percentsAtEnd]
  | c :: d :: rest => by
      rw [whole]
      by_cases hc : c = ascii '%'
      · rw [if_pos hc, whole_iff rest]
        by_cases hall : ∀ e ∈ d :: rest, e = ascii '%'
        · -- nothing but `%`s
          have hrest : ∀ e ∈ rest, e = ascii '%' := fun e he => hall e (List.mem_cons_of_mem d he)
          have hmore : ∀ e ∈ c :: d :: rest, e = ascii '%' := by
            intro e he
            rcases List.mem_cons.mp he with rfl | he
            · exact hc
            · exact hall e he
          rw [percentsAtEnd_all hrest, percentsAtEnd_all hmore, List.length_cons, List.length_cons]
          omega
        · rw [percentsAtEnd_cons (fun h => hall fun e he => h e (List.mem_cons_of_mem c he)),
            percentsAtEnd_cons hall]
      · rw [if_neg hc, percentsAtEnd_cons (fun h => hc (h c List.mem_cons_self))]
        exact whole_iff (d :: rest)

/-! ## What the caller sees to -/

/-- The specifiers of a format that take an argument, in order. -/
def conversions : CStr → List UInt8
  | [] => []
  | [_] => []
  | c :: d :: rest =>
    if c = ascii '%' then (if uprintTakesArg d then [d] else []) ++ conversions rest
    else conversions (d :: rest)

/-- An argument for a specifier: a string for `%s`, an integer for the others. -/
def ArgFits (c : UInt8) (arg : UprintArg) : Prop :=
  if c = ascii 's' then arg.string ≠ none else arg.word ≠ none

/-- The arguments begin with one for each conversion. -/
def EnoughArgs (fmt : CStr) (args : List UprintArg) : Prop :=
  ∃ used extra, args = used ++ extra ∧ List.Forall₂ ArgFits (conversions fmt) used

/-! ## Printing one argument -/

/-- The digits of a number below `base ^ room` fit into `room` bytes. -/
theorem uprintPutuLoop_fits (base : UInt8) (hb : 2 ≤ base.toNat) :
    ∀ (room : Nat) (n : UInt32) (buf : List UInt8), n.toNat < base.toNat ^ room →
      ∃ out, uprintPutuLoop base room n buf = some out
  | 0, n, buf, h => by
      have h0 : n = 0 := by
        apply UInt32.toNat.inj
        rw [Nat.pow_zero] at h
        show n.toNat = 0
        omega
      exact ⟨buf, by rw [uprintPutuLoop, if_pos h0]⟩
  | room + 1, n, buf, h => by
      rw [uprintPutuLoop]
      by_cases h0 : n = 0
      · exact ⟨buf, by rw [if_pos h0]⟩
      · rw [if_neg h0]
        refine uprintPutuLoop_fits base hb room _ _ ?_
        rw [UInt32.toNat_div, UInt8.toNat_toUInt32]
        rw [Nat.pow_succ, Nat.mul_comm] at h
        exact Nat.div_lt_of_lt_mul h

/-- The digit buffer of twelve bytes is large enough in base ten and above. -/
theorem uprintPutu_fits (base : UInt8) (hb : 10 ≤ base.toNat) (n : UInt32) :
    ∃ out, uprintPutu n base = some out := by
  unfold uprintPutu
  by_cases h0 : n = 0
  · exact ⟨_, by rw [if_pos h0]⟩
  · have hpow : 10 ^ 11 ≤ base.toNat ^ 11 := Nat.pow_le_pow_left hb 11
    have hlt := n.toNat_lt
    obtain ⟨out, hout⟩ := uprintPutuLoop_fits base (by omega) 11 n [0] (by omega)
    exact ⟨_, by rw [if_neg h0, hout]; rfl⟩

theorem uprintPuti_fits (n : Int32) : ∃ out, uprintPuti n = some out := by
  unfold uprintPuti
  split
  · obtain ⟨out, hout⟩ := uprintPutu_fits 10 (by decide)
      (-n.toInt64).toUInt64.toUInt32
    exact ⟨_, by rw [hout]; rfl⟩
  · exact uprintPutu_fits 10 (by decide) n.toUInt32

/-- A fitting argument can be printed. -/
theorem uprintConvert_fits {c : UInt8} {arg : UprintArg} (h : ArgFits c arg) :
    ∃ bytes, uprintConvert c arg = some bytes := by
  unfold ArgFits at h
  unfold uprintConvert
  by_cases hs : c = ascii 's'
  · rw [if_pos hs] at h
    obtain ⟨s, hstr⟩ := Option.ne_none_iff_exists'.mp h
    rw [hs, hstr]
    exact ⟨_, rfl⟩
  · rw [if_neg hs] at h
    obtain ⟨v, hword⟩ := Option.ne_none_iff_exists'.mp h
    rw [hword]
    split
    · exact uprintPuti_fits v.toInt32
    · split
      · exact uprintPutu_fits 10 (by decide) v
      · split
        · exact uprintPutu_fits 16 (by decide) v
        · exact ⟨_, rfl⟩

/-! ## One pass of the scanner -/

section Scan

variable {read : Nat → UInt8} {fuel pos : Nat} {args : List UprintArg}

theorem uprintLoop_end (h : read pos = 0) :
    uprintLoop read (fuel + 1) pos args = some [.examine pos] := by
  rw [uprintLoop, if_pos h]

theorem uprintLoop_literal (h0 : read pos ≠ 0) (hp : read pos ≠ ascii '%') :
    uprintLoop read (fuel + 1) pos args
      = (uprintLoop read fuel (pos + 1) args).map fun evs =>
          .examine pos :: .send (.fmt pos) (read pos) :: evs := by
  rw [uprintLoop, if_neg h0, if_neg hp]

theorem uprintLoop_percent (hp : read pos = ascii '%') :
    uprintLoop read (fuel + 1) pos args
      = match uprintSwitch (pos + 1) (read (pos + 1)) args with
        | none => none
        | some (sent, args) =>
          (uprintLoop read fuel (pos + 2) args).map fun evs =>
            .examine pos :: .examine (pos + 1) :: (sent ++ evs) := by
  have h0 : read pos ≠ 0 := by
    rw [hp]
    decide
  exact (if_neg h0).trans (if_pos hp)

/-- Whatever it does, the scanner first looks where it is. -/
theorem uprintLoop_examines {evs : List UprintEvent} (h : uprintLoop read fuel pos args = some evs) :
    .examine pos ∈ evs := by
  cases fuel with
  | zero => exact absurd h (by simp [uprintLoop])
  | succ fuel =>
      by_cases h0 : read pos = 0
      · rw [uprintLoop_end h0] at h
        obtain rfl := Option.some.inj h
        exact List.mem_cons_self
      · by_cases hp : read pos = ascii '%'
        · rw [uprintLoop_percent hp] at h
          split at h
          · exact absurd h (by simp)
          · obtain ⟨evs', _, rfl⟩ := Option.map_eq_some_iff.mp h
            exact List.mem_cons_self
        · rw [uprintLoop_literal h0 hp] at h
          obtain ⟨evs', _, rfl⟩ := Option.map_eq_some_iff.mp h
          exact List.mem_cons_self

end Scan

/-! ## A format and what lies behind it -/

section Format

variable (beyond : Nat → UInt8)

theorem cstrAt_char (pre : CStr) (c : UInt8) (rest : CStr) :
    cstrAt (pre ++ c :: rest) beyond pre.length = c := by
  unfold cstrAt
  rw [if_pos (by simp)]
  simp

theorem cstrAt_end (s : CStr) : cstrAt s beyond s.length = 0 := by
  unfold cstrAt
  rw [if_neg (Nat.lt_irrefl _), if_pos rfl]

/-- Where a byte may come from: the format, or the printing of an argument. -/
def ComesFrom (fmt : CStr) (args : List UprintArg) : UprintSource → UInt8 → Prop
  | .fmt pos, byte => fmt[pos]? = some byte
  | .arg arg, byte => arg ∈ args ∧ ∃ c bytes, uprintConvert c arg = some bytes ∧ byte ∈ bytes

/-- The scanner looked at nothing behind the NUL, and sent nothing but format and arguments. -/
structure StaysInside (fmt : CStr) (args : List UprintArg) (evs : List UprintEvent) : Prop where
  examined : ∀ pos, .examine pos ∈ evs → pos ≤ fmt.length
  sent : ∀ source byte, .send source byte ∈ evs → ComesFrom fmt args source byte

variable {beyond}

theorem staysInside_nil (fmt : CStr) (args : List UprintArg) : StaysInside fmt args [] where
  examined := fun _ h => absurd h (by simp)
  sent := fun _ _ h => absurd h (by simp)

theorem StaysInside.examine {fmt : CStr} {args : List UprintArg} {evs : List UprintEvent}
    (h : StaysInside fmt args evs) {pos : Nat} (hpos : pos ≤ fmt.length) :
    StaysInside fmt args (.examine pos :: evs) where
  examined := by
    intro pos' hmem
    rcases List.mem_cons.mp hmem with heq | hmem
    · obtain rfl := UprintEvent.examine.inj heq
      exact hpos
    · exact h.examined pos' hmem
  sent := by
    intro source byte hmem
    rcases List.mem_cons.mp hmem with heq | hmem
    · exact absurd heq (by simp)
    · exact h.sent source byte hmem

/-- Bytes sent, and then the rest. -/
theorem StaysInside.send {fmt : CStr} {args : List UprintArg} {evs : List UprintEvent}
    (h : StaysInside fmt args evs) (source : UprintSource) (bytes : List UInt8)
    (hs : ∀ byte ∈ bytes, ComesFrom fmt args source byte) :
    StaysInside fmt args (bytes.map (.send source) ++ evs) where
  examined := by
    intro pos hmem
    rcases List.mem_append.mp hmem with hmem | hmem
    · obtain ⟨byte, _, heq⟩ := List.mem_map.mp hmem
      exact absurd heq (by simp)
    · exact h.examined pos hmem
  sent := by
    intro source' byte hmem
    rcases List.mem_append.mp hmem with hmem | hmem
    · obtain ⟨byte', hb, heq⟩ := List.mem_map.mp hmem
      obtain ⟨rfl, rfl⟩ := UprintEvent.send.inj heq
      exact hs byte' hb
    · exact h.sent source' byte hmem

/-- Fewer arguments left do not matter. -/
theorem StaysInside.more {fmt : CStr} {args args' : List UprintArg} {evs : List UprintEvent}
    (h : StaysInside fmt args evs) (ha : ∀ a ∈ args, a ∈ args') : StaysInside fmt args' evs where
  examined := h.examined
  sent := by
    intro source byte hmem
    have hfrom := h.sent source byte hmem
    cases source with
    | fmt pos => exact hfrom
    | arg arg => exact ⟨ha arg hfrom.1, hfrom.2⟩

/-- A literal character, and what the scanner does from the next position on. -/
theorem uprintLoop_inside_literal {pre rest : CStr} {c : UInt8} {args : List UprintArg} {fuel : Nat}
    (h0 : c ≠ 0) (hp : c ≠ ascii '%')
    (hrest : ∃ evs, uprintLoop (cstrAt ((pre ++ [c]) ++ rest) beyond) fuel (pre ++ [c]).length args
      = some evs ∧ StaysInside ((pre ++ [c]) ++ rest) args evs) :
    ∃ evs, uprintLoop (cstrAt (pre ++ c :: rest) beyond) (fuel + 1) pre.length args = some evs
      ∧ StaysInside (pre ++ c :: rest) args evs := by
  obtain ⟨evs, hrun, hin⟩ := hrest
  rw [List.append_assoc, List.singleton_append] at hrun hin
  rw [List.length_append, List.length_singleton] at hrun
  have hc := cstrAt_char beyond pre c rest
  rw [uprintLoop_literal (by rw [hc]; exact h0) (by rw [hc]; exact hp), hrun, hc]
  refine ⟨_, rfl, StaysInside.examine ?_ (by simp)⟩
  refine hin.send (.fmt pre.length) [c] fun byte hb => ?_
  rw [List.mem_singleton.mp hb]
  show (pre ++ c :: rest)[pre.length]? = some c
  simp

/-- **What the `switch` does on a specifier whose argument is there.** -/
theorem uprintSwitch_spec (pos : Nat) {d : UInt8} {rest : CStr} {args : List UprintArg}
    (ha : EnoughArgs (ascii '%' :: d :: rest) args) :
    ∃ (source : UprintSource) (bytes : List UInt8) (args' : List UprintArg),
      uprintSwitch pos d args = some (bytes.map (.send source), args')
      ∧ (∀ a ∈ args', a ∈ args) ∧ EnoughArgs rest args'
      ∧ ∀ fmt : CStr, fmt[pos]? = some d → ∀ byte ∈ bytes, ComesFrom fmt args source byte := by
  obtain ⟨used, extra, hargs, hall⟩ := ha
  rw [conversions, if_pos rfl] at hall
  unfold uprintSwitch
  by_cases ht : uprintTakesArg d = true
  · -- one argument is taken
    rw [if_pos ht, List.singleton_append] at hall
    cases hall with
    | @cons _ arg _ used hfits hall =>
        obtain ⟨bytes, hbytes⟩ := uprintConvert_fits hfits
        rw [if_pos ht, hargs, List.cons_append]
        refine ⟨.arg arg, bytes, used ++ extra, ?_, ?_, ⟨used, extra, rfl, hall⟩, ?_⟩
        · dsimp only
          rw [hbytes]
        · exact fun a ha => List.mem_cons_of_mem arg ha
        · exact fun _ _ byte hb => ⟨List.mem_cons_self, d, bytes, hbytes, hb⟩
  · -- the character itself is sent, and no argument taken
    rw [if_neg ht, List.nil_append] at hall
    rw [if_neg ht]
    refine ⟨.fmt pos, [d], args, rfl, fun _ h => h, ⟨used, extra, hargs, hall⟩, ?_⟩
    intro fmt hpos byte hb
    rw [List.mem_singleton.mp hb]
    exact hpos

/-- A specifier, and what the scanner does behind it. -/
theorem uprintLoop_inside_percent {pre rest : CStr} {d : UInt8} {args : List UprintArg} {fuel : Nat}
    (ha : EnoughArgs (ascii '%' :: d :: rest) args)
    (hrest : ∀ args', EnoughArgs rest args' →
      ∃ evs, uprintLoop (cstrAt ((pre ++ [ascii '%', d]) ++ rest) beyond) fuel
          (pre ++ [ascii '%', d]).length args' = some evs
        ∧ StaysInside ((pre ++ [ascii '%', d]) ++ rest) args' evs) :
    ∃ evs, uprintLoop (cstrAt (pre ++ ascii '%' :: d :: rest) beyond) (fuel + 1) pre.length args
        = some evs
      ∧ StaysInside (pre ++ ascii '%' :: d :: rest) args evs := by
  have hfmt : (pre ++ [ascii '%', d]) ++ rest = pre ++ ascii '%' :: d :: rest := by simp
  have hnext : (pre ++ [ascii '%']).length = pre.length + 1 := by simp
  have hp := cstrAt_char beyond pre (ascii '%') (d :: rest)
  have hd := cstrAt_char beyond (pre ++ [ascii '%']) d rest
  rw [List.append_assoc, List.singleton_append, hnext] at hd
  obtain ⟨source, bytes, args', hswitch, hsub, hargs', hfrom⟩ :=
    uprintSwitch_spec (pre.length + 1) ha
  obtain ⟨evs, hrun, hin⟩ := hrest args' hargs'
  rw [hfmt] at hrun hin
  rw [show (pre ++ [ascii '%', d]).length = pre.length + 2 by simp] at hrun
  rw [uprintLoop_percent hp, hd, hswitch]
  dsimp only
  rw [hrun]
  refine ⟨_, rfl, StaysInside.examine (StaysInside.examine ?_ (by simp)) (by simp)⟩
  refine (hin.more hsub).send source bytes (hfrom _ ?_)
  rw [List.getElem?_append_right (by omega), Nat.add_sub_cancel_left]
  rfl

theorem enoughArgs_tail {c d : UInt8} {rest : CStr} {args : List UprintArg} (hc : c ≠ ascii '%')
    (h : EnoughArgs (c :: d :: rest) args) : EnoughArgs (d :: rest) args := by
  obtain ⟨used, extra, hargs, hall⟩ := h
  rw [conversions, if_neg hc] at hall
  exact ⟨used, extra, hargs, hall⟩

theorem enoughArgs_nil (args : List UprintArg) : EnoughArgs [] args := ⟨[], args, rfl, .nil⟩

/-- **The scanner stays inside a format that cuts no specifier off**, here from any position on. -/
theorem uprintLoop_inside : ∀ (rest pre : CStr) (args : List UprintArg) (fuel : Nat),
    0 ∉ rest → whole rest = true → EnoughArgs rest args → rest.length < fuel →
      ∃ evs, uprintLoop (cstrAt (pre ++ rest) beyond) fuel pre.length args = some evs
        ∧ StaysInside (pre ++ rest) args evs
  | [], pre, args, fuel + 1, _, _, _, _ => by
      rw [List.append_nil]
      exact ⟨_, uprintLoop_end (cstrAt_end beyond pre),
        (staysInside_nil pre args).examine (Nat.le_refl _)⟩
  | [c], pre, args, fuel + 1, hnul, hw, _, hf => by
      have h0 : c ≠ 0 := fun h => hnul (by simp [h])
      have hp : c ≠ ascii '%' := of_decide_eq_true hw
      exact uprintLoop_inside_literal h0 hp
        (uprintLoop_inside [] (pre ++ [c]) args fuel (by simp) rfl (enoughArgs_nil args)
          (Nat.lt_of_succ_lt_succ hf))
  | c :: d :: rest, pre, args, fuel + 1, hnul, hw, ha, hf => by
      have h0 : c ≠ 0 := fun h => hnul (by simp [h])
      rw [whole] at hw
      by_cases hp : c = ascii '%'
      · rw [if_pos hp] at hw
        subst hp
        refine uprintLoop_inside_percent ha fun args' ha' => ?_
        refine uprintLoop_inside rest (pre ++ [ascii '%', d]) args' fuel ?_ hw ha' ?_
        · exact fun h => hnul (List.mem_cons_of_mem _ (List.mem_cons_of_mem _ h))
        · rw [List.length_cons, List.length_cons] at hf
          omega
      · rw [if_neg hp] at hw
        exact uprintLoop_inside_literal h0 hp
          (uprintLoop_inside (d :: rest) (pre ++ [c]) args fuel
            (fun h => hnul (List.mem_cons_of_mem c h)) hw (enoughArgs_tail hp ha)
            (Nat.lt_of_succ_lt_succ hf))

/-- What the scanner has done with a character that is not the last. -/
theorem uprintLoop_cases {pre rest : CStr} {c d : UInt8} {args : List UprintArg} {fuel : Nat}
    {evs : List UprintEvent} (h0 : c ≠ 0)
    (hrun : uprintLoop (cstrAt (pre ++ c :: d :: rest) beyond) (fuel + 1) pre.length args
      = some evs) :
    (c = ascii '%' ∧ ∃ sent args' evs', uprintSwitch (pre.length + 1) d args = some (sent, args')
        ∧ uprintLoop (cstrAt (pre ++ [c, d] ++ rest) beyond) fuel (pre ++ [c, d]).length args'
          = some evs'
        ∧ evs = .examine pre.length :: .examine (pre.length + 1) :: (sent ++ evs'))
      ∨ (c ≠ ascii '%' ∧ ∃ evs',
        uprintLoop (cstrAt (pre ++ [c] ++ d :: rest) beyond) fuel (pre ++ [c]).length args
          = some evs'
        ∧ evs = .examine pre.length :: .send (.fmt pre.length) c :: evs') := by
  have hc := cstrAt_char beyond pre c (d :: rest)
  by_cases hp : c = ascii '%'
  · have hd := cstrAt_char beyond (pre ++ [c]) d rest
    rw [List.append_assoc, List.singleton_append, List.length_append,
      List.length_singleton] at hd
    rw [uprintLoop_percent (hc.trans hp), hd] at hrun
    split at hrun
    · exact absurd hrun (by simp)
    · rename_i sent args' hswitch
      obtain ⟨evs', hrun', rfl⟩ := Option.map_eq_some_iff.mp hrun
      refine Or.inl ⟨hp, sent, args', evs', hswitch, ?_, rfl⟩
      rw [List.append_assoc, List.length_append]
      exact hrun'
  · rw [uprintLoop_literal (by rw [hc]; exact h0) (by rw [hc]; exact hp), hc] at hrun
    obtain ⟨evs', hrun', rfl⟩ := Option.map_eq_some_iff.mp hrun
    refine Or.inr ⟨hp, evs', ?_, rfl⟩
    rw [List.append_assoc, List.length_append]
    exact hrun'

/-- **A specifier cut off takes the scanner past the NUL.** -/
theorem uprintLoop_overruns : ∀ (rest pre : CStr) (args : List UprintArg) (fuel : Nat)
    (evs : List UprintEvent), 0 ∉ rest → whole rest = false →
      uprintLoop (cstrAt (pre ++ rest) beyond) fuel pre.length args = some evs →
        .examine ((pre ++ rest).length + 1) ∈ evs
  | _, _, _, 0, _, _, _, hrun => absurd hrun (by simp [uprintLoop])
  | [], _, _, fuel + 1, _, _, hw, _ => absurd hw (by decide)
  | [c], pre, args, fuel + 1, evs, _, hw, hrun => by
      have hp : c = ascii '%' := by
        by_contra hp
        rw [whole, decide_eq_true hp] at hw
        exact absurd hw (by simp)
      -- the `%` is the last character: the `switch` is on the NUL, and the scanner goes on behind
      have hlast := cstrAt_char beyond pre c []
      rw [hp] at hlast
      rw [hp, uprintLoop_percent hlast] at hrun
      split at hrun
      · exact absurd hrun (by simp)
      · obtain ⟨evs', hrun', rfl⟩ := Option.map_eq_some_iff.mp hrun
        have hmem := uprintLoop_examines hrun'
        rw [List.length_append, List.length_singleton]
        exact List.mem_cons_of_mem _ (List.mem_cons_of_mem _ (List.mem_append_right _ hmem))
  | c :: d :: rest, pre, args, fuel + 1, evs, hnul, hw, hrun => by
      have h0 : c ≠ 0 := fun h => hnul (by simp [h])
      rw [whole] at hw
      rcases uprintLoop_cases h0 hrun with ⟨hp, sent, args', evs', _, hrun', rfl⟩
        | ⟨hp, evs', hrun', rfl⟩
      · rw [if_pos hp] at hw
        have ih := uprintLoop_overruns rest (pre ++ [c, d]) args' fuel evs'
          (fun h => hnul (List.mem_cons_of_mem _ (List.mem_cons_of_mem _ h))) hw hrun'
        rw [List.append_assoc] at ih
        exact List.mem_cons_of_mem _ (List.mem_cons_of_mem _ (List.mem_append_right _ ih))
      · rw [if_neg hp] at hw
        have ih := uprintLoop_overruns (d :: rest) (pre ++ [c]) args fuel evs'
          (fun h => hnul (List.mem_cons_of_mem c h)) hw hrun'
        rw [List.append_assoc] at ih
        exact List.mem_cons_of_mem _ (List.mem_cons_of_mem _ ih)

end Format

/-! ## The law and its condition -/

/-- A call of `uprint` returns, having stayed inside its format. -/
def UprintInside (fmt : CStr) (beyond : Nat → UInt8) (args : List UprintArg) : Prop :=
  ∃ fuel evs, uprint fuel fmt beyond args = some evs ∧ StaysInside fmt args evs

/--
**`uprint` stays inside its format exactly if the format ends in an even number of `%`s.**

For every format, whatever lies behind it in memory, and any arguments of which there are enough.
-/
theorem uprint_inside_iff (fmt : CStr) (beyond : Nat → UInt8) (args : List UprintArg)
    (hnul : 0 ∉ fmt) (hargs : EnoughArgs fmt args) :
    UprintInside fmt beyond args ↔ percentsAtEnd fmt % 2 = 0 := by
  rw [← whole_iff]
  constructor
  · intro ⟨fuel, evs, hrun, hin⟩
    by_contra hw
    have hover := uprintLoop_overruns fmt [] args fuel evs hnul (Bool.eq_false_iff.mpr hw) hrun
    have hle := hin.examined _ hover
    rw [List.nil_append] at hle
    omega
  · intro hw
    exact ⟨fmt.length + 1, uprintLoop_inside fmt [] args (fmt.length + 1) hnul hw hargs
      (Nat.lt_succ_self _)⟩

/-- The format `100%`. -/
def cutOff : CStr := [ascii '1', ascii '0', ascii '0', ascii '%']

/-- With zeros behind it, the printer sends its NUL and looks at the byte behind that. -/
theorem cutOff_overruns :
    uprint 9 cutOff (fun _ => 0) []
        = some [.examine 0, .send (.fmt 0) 49, .examine 1, .send (.fmt 1) 48, .examine 2,
            .send (.fmt 2) 48, .examine 3, .examine 4, .send (.fmt 4) 0, .examine 5]
      ∧ ¬UprintInside cutOff (fun _ => 0) [] := by
  refine ⟨by decide, fun ⟨fuel, evs, hrun, hin⟩ => ?_⟩
  have hover := uprintLoop_overruns cutOff [] [] fuel evs (by decide) (by decide) hrun
  exact absurd (hin.examined _ hover) (by decide)

/-- The format `%s=%x%%`, for a name and a number. -/
def nameValue : CStr :=
  [ascii '%', ascii 's', ascii '=', ascii '%', ascii 'x', ascii '%', ascii '%']

theorem nameValue_inside :
    UprintInside nameValue (fun _ => 37) [.str (some [ascii 'T']), .unsigned 31] :=
  (uprint_inside_iff nameValue (fun _ => 37) [.str (some [ascii 'T']), .unsigned 31] (by decide)
    ⟨_, [], rfl, .cons (by rw [ArgFits, if_pos rfl]; decide)
      (.cons (by rw [ArgFits, if_neg (by decide)]; decide) .nil)⟩).mpr (by decide)

end FwCore.Proof
