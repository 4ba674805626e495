import FwCore.Core.Cli

/-!
# The command line assembles lines

A stream of bytes is cut at its line ends, CR and LF alike, into the lines that are
finished and the one that is not. `LineOpen` says what the module keeps of an unfinished
line: its bytes as far as they fit, and how many those are. A byte that ends no line
takes the module from the line without it to the line with it; one that does dispatches
the line and leaves the empty one.

An empty line does nothing, so CR LF, which ends one line and then the empty line between
the two bytes, counts as one line end.
-/

namespace FwCore.Proof

open FwCore Lib

/-! ## Comparing names -/

theorem strcmp_eq_zero : ∀ {s t : CStr}, (∀ b ∈ s, b ≠ 0) → (∀ b ∈ t, b ≠ 0) →
    (strcmp s t = 0 ↔ s = t)
  | [], [], _, _ => iff_of_true rfl rfl
  | [], b :: t, _, ht => by
      have hb : b.toNat ≠ 0 := fun h => ht b List.mem_cons_self (UInt8.toNat_inj.mp h)
      refine iff_of_false (fun h => hb ?_) (by simp)
      unfold strcmp at h
      omega
  | a :: s, [], hs, _ => by
      have ha : a.toNat ≠ 0 := fun h => hs a List.mem_cons_self (UInt8.toNat_inj.mp h)
      refine iff_of_false (fun h => ha ?_) (by simp)
      unfold strcmp at h
      omega
  | a :: s, b :: t, hs, ht => by
      unfold strcmp
      by_cases hab : a = b
      · rw [if_pos hab, hab]
        have ih := strcmp_eq_zero (fun x hx => hs x (List.mem_cons_of_mem a hx))
          (fun x hx => ht x (List.mem_cons_of_mem b hx))
        rw [ih, List.cons.injEq]
        exact ⟨fun h => ⟨rfl, h⟩, fun h => h.2⟩
      · rw [if_neg hab]
        refine iff_of_false (fun h => hab (UInt8.toNat_inj.mp ?_)) (fun h => hab ?_)
        · omega
        · exact (List.cons.inj h).1

/-- Reading a string stops at its NUL. -/
theorem cstrOf_stops (s rest : List UInt8) : cstrOf (s ++ 0 :: rest) = cstrOf s := by
  unfold cstrOf
  induction s with
  | nil => rfl
  | cons b s ih =>
      rw [List.cons_append]
      by_cases hb : b = 0
      · rw [List.takeWhile_cons_of_neg (by simp [hb]), List.takeWhile_cons_of_neg (by simp [hb])]
      · rw [List.takeWhile_cons_of_pos (by simp [hb]), List.takeWhile_cons_of_pos (by simp [hb])]
        rw [ih]

theorem cstrOf_eq_self {s : List UInt8} (h : ∀ b ∈ s, b ≠ 0) : cstrOf s = s := by
  unfold cstrOf
  induction s with
  | nil => rfl
  | cons b s ih =>
      have hb := h b List.mem_cons_self
      rw [List.takeWhile_cons_of_pos (by simp [hb])]
      rw [ih (fun x hx => h x (List.mem_cons_of_mem b hx))]

/-! ## What a line does -/

/-- The bytes that end a line. -/
def isLineEnd (b : UInt8) : Bool := b = ascii '\r' || b = ascii '\n'

/-- What happens at the end of a line: its first 63 bytes are dispatched, up to a NUL. -/
def lineActions (table : CommandTable) (line : List UInt8) : List CliEvent :=
  let kept := cstrOf (line.take (cliBufferSize - 1))
  if kept = [] then [] else cliDispatchLoop kept 0 table.entries

/-- The first command of a name. -/
structure FirstNamed (cmds : List Command) (line : CStr) (i : Nat) (cmd : Command) : Prop where
  entry : cmds[i]? = some cmd
  name : cmd.name = line
  first : ∀ j < i, ∀ other, cmds[j]? = some other → other.name ≠ line

/-- What a line is supposed to do. -/
structure LineDone (table : CommandTable) (line : List UInt8) (acts : List CliEvent) : Prop where
  /-- An empty line does nothing. -/
  empty : line = [] → acts = []
  /-- A line that fits and has no NUL executes the first command of its name, or is reported. -/
  full : 1 ≤ line.length → line.length ≤ 63 → (∀ b ∈ line, b ≠ 0) →
    (∃ i cmd, FirstNamed table.entries line i cmd ∧ acts = [.execute i cmd.execute])
      ∨ ((∀ cmd ∈ table.entries, cmd.name ≠ line)
        ∧ acts = [.uprint ⟨"Unknown command: '%s'\r\n", [.str (some line)]⟩])

/-- The loop finds the first command of the name, or that there is none. -/
theorem cliDispatchLoop_finds {line : CStr} (hline : ∀ b ∈ line, b ≠ 0) (cmds : List Command)
    (start : Nat) :
    (∃ i cmd, FirstNamed cmds line i cmd
        ∧ cliDispatchLoop line start cmds = [.execute (start + i) cmd.execute])
      ∨ ((∀ cmd ∈ cmds, cmd.name ≠ line)
        ∧ cliDispatchLoop line start cmds = [cliUnknown line]) := by
  induction cmds generalizing start with
  | nil => exact Or.inr ⟨fun cmd hc => absurd hc List.not_mem_nil, rfl⟩
  | cons c cmds ih =>
      have hcmp := strcmp_eq_zero hline c.name_ne
      unfold cliDispatchLoop
      by_cases hname : c.name = line
      · rw [if_pos (hcmp.mpr hname.symm)]
        exact Or.inl ⟨0, c, ⟨rfl, hname, fun j hj => absurd hj (Nat.not_lt_zero j)⟩, rfl⟩
      · rw [if_neg (fun h => hname (hcmp.mp h).symm)]
        rcases ih (start + 1) with ⟨i, cmd, hfirst, hloop⟩ | ⟨hno, hloop⟩
        · refine Or.inl ⟨i + 1, cmd, ⟨hfirst.entry, hfirst.name, fun j hj other ho => ?_⟩, ?_⟩
          · cases j with
            | zero =>
                obtain rfl : c = other := Option.some.inj ho
                exact hname
            | succ j => exact hfirst.first j (Nat.lt_of_succ_lt_succ hj) other ho
          · rw [hloop, Nat.add_assoc, Nat.add_comm 1 i]
        · refine Or.inr ⟨fun cmd hc => ?_, hloop⟩
          rcases List.mem_cons.mp hc with rfl | hc
          · exact hname
          · exact hno cmd hc

/-- **A line does what it is supposed to do.** -/
theorem lineActions_done (table : CommandTable) (line : List UInt8) :
    LineDone table line (lineActions table line) := by
  refine ⟨fun h => ?_, fun hpos hlen hne => ?_⟩
  · rw [h]
    rfl
  · have hself : cstrOf (line.take (cliBufferSize - 1)) = line := by
      have hmax : line.length ≤ cliBufferSize - 1 := hlen
      rw [List.take_of_length_le hmax]
      exact cstrOf_eq_self hne
    unfold lineActions
    dsimp only
    rw [hself, if_neg (List.ne_nil_of_length_pos hpos)]
    rcases cliDispatchLoop_finds hne table.entries 0 with ⟨i, cmd, hfirst, hloop⟩ | hnone
    · rw [Nat.zero_add] at hloop
      exact Or.inl ⟨i, cmd, hfirst, hloop⟩
    · exact Or.inr hnone

/-- The buffer with a NUL behind the kept bytes of a line is dispatched as the line. -/
theorem cliDispatch_line (table : CommandTable) (line rest : List UInt8) :
    cliDispatch (some table) (line.take (cliBufferSize - 1) ++ 0 :: rest)
      = some (lineActions table line) := by
  unfold cliDispatch lineActions
  dsimp only
  rw [cstrOf_stops]
  cases hk : line.take (cliBufferSize - 1) with
  | nil => rfl
  | cons b kept =>
      rw [List.cons_append]
      dsimp only
      by_cases hb : b = 0
      · rw [if_pos hb, if_pos]
        unfold cstrOf
        rw [List.takeWhile_cons_of_neg (by simp [hb])]
      · rw [if_neg hb, if_pos (by simp), if_neg]
        unfold cstrOf
        rw [List.takeWhile_cons_of_pos (by simp [hb])]
        simp

/-! ## One byte -/

/-- The module, set up for a port and a table, when the bytes of the unfinished line are `line`. -/
structure LineOpen (commId : UInt8) (table : CommandTable) (line : List UInt8) (s : Cli) :
    Prop where
  commId : s.commId = commId
  table : s.table = some table
  /-- No byte of it ends the line. -/
  unfinished : ∀ b ∈ line, isLineEnd b = false
  /-- `cli_idx` counts the bytes that fit. -/
  idx : s.idx = min line.length (cliBufferSize - 1)
  /-- The buffer holds them. -/
  kept : s.buffer.toList.take s.idx = line.take (cliBufferSize - 1)

/-- What is sent back for a byte. -/
def echo (b : UInt8) : List UInt8 := if b = ascii '\r' then [ascii '\r', ascii '\n'] else [b]

variable {commId : UInt8} {table : CommandTable} {line : List UInt8} {s : Cli}

theorem LineOpen.idx_lt (h : LineOpen commId table line s) : s.idx < cliBufferSize := by
  rw [h.idx]
  unfold cliBufferSize
  omega

/-- A store within the buffer: what is before it stays, and so does what is after it. -/
theorem store_spec (ch : UInt8) (h : s.idx < cliBufferSize) : ∃ buffer : Vector UInt8 cliBufferSize,
    s.store ch = some { s with buffer := buffer }
      ∧ buffer.toList = s.buffer.toList.take s.idx ++ ch :: s.buffer.toList.drop (s.idx + 1) := by
  refine ⟨s.buffer.set s.idx ch h, ?_, ?_⟩
  · unfold Cli.store
    rw [dif_pos h]
  · rw [Vector.toList_set, List.set_eq_take_append_cons_drop, if_pos]
    rw [Vector.length_toList]
    exact h

/-- A byte that ends no line is added to the line, if it fits. -/
theorem cliReceive_more (h : LineOpen commId table line s) {b : UInt8} (hb : isLineEnd b = false) :
    ∃ s', cliReceive s b = some (s', [.send commId b])
      ∧ LineOpen commId table (line ++ [b]) s' := by
  have hends : b ≠ ascii '\r' ∧ b ≠ ascii '\n' := by
    unfold isLineEnd at hb
    simpa using hb
  have hunfinished : ∀ x ∈ line ++ [b], isLineEnd x = false := by
    intro x hx
    rcases List.mem_append.mp hx with hx | hx
    · exact h.unfinished x hx
    · rw [List.mem_singleton.mp hx]
      exact hb
  unfold cliReceive
  dsimp only
  rw [if_neg hends.1]
  dsimp only
  rw [if_neg hends.2, h.commId]
  by_cases hroom : s.idx < cliBufferSize - 1
  · obtain ⟨buffer, hstore, hbuf⟩ := store_spec b h.idx_lt
    rw [if_pos hroom, hstore]
    have hshort : line.length < cliBufferSize - 1 := by
      rw [h.idx] at hroom
      omega
    have hidx : s.idx = line.length := by
      rw [h.idx]
      omega
    refine ⟨_, rfl, h.commId, h.table, hunfinished, ?_, ?_⟩
    · show s.idx + 1 = _
      rw [List.length_append, List.length_singleton, hidx]
      omega
    · have hlen : (s.buffer.toList.take s.idx).length = s.idx := by
        rw [List.length_take, Vector.length_toList]
        exact Nat.min_eq_left (Nat.le_of_lt h.idx_lt)
      show buffer.toList.take (s.idx + 1) = _
      rw [hbuf, List.take_append, hlen, List.take_of_length_le (by omega), Nat.add_sub_cancel_left,
        List.take_succ_cons, List.take_zero, h.kept, List.take_of_length_le (by omega),
        List.take_of_length_le]
      rw [List.length_append, List.length_singleton]
      omega
  · rw [if_neg hroom]
    have hlong : cliBufferSize - 1 ≤ line.length := by
      rw [h.idx] at hroom
      omega
    refine ⟨s, rfl, h.commId, h.table, hunfinished, ?_, ?_⟩
    · rw [h.idx, List.length_append]
      omega
    · rw [h.kept, List.take_append_of_le_length hlong]

/-- A line end dispatches the line, and the next line begins. -/
theorem cliReceive_end (h : LineOpen commId table line s) {b : UInt8} (hb : isLineEnd b = true) :
    ∃ s', cliReceive s b
        = some (s', (echo b).map (CliEvent.send commId) ++ lineActions table line)
      ∧ LineOpen commId table [] s' := by
  obtain ⟨buffer, hstore, hbuf⟩ := store_spec 0 h.idx_lt
  -- a CR has become an LF by the time the line is dispatched
  have hsent : (if b = ascii '\r'
        then (ascii '\n', [CliEvent.send commId b] ++ [CliEvent.send commId (ascii '\n')])
        else (b, [CliEvent.send commId b]))
      = (ascii '\n', (echo b).map (CliEvent.send commId)) := by
    unfold echo
    by_cases hcr : b = ascii '\r'
    · rw [if_pos hcr, if_pos hcr, hcr]
      rfl
    · have hlf : b = ascii '\n' := by
        unfold isLineEnd at hb
        simpa [hcr] using hb
      rw [if_neg hcr, if_neg hcr, hlf]
      rfl
  unfold cliReceive
  dsimp only
  rw [h.commId, hsent]
  dsimp only
  rw [if_pos rfl, hstore]
  dsimp only
  rw [h.table, hbuf, h.kept, cliDispatch_line]
  refine ⟨_, rfl, h.commId, rfl, fun x hx => absurd hx List.not_mem_nil, rfl, ?_⟩
  rw [List.take_zero, List.take_nil]

/-! ## A stream -/

/-- What is sent, with the port it is sent to. -/
def sentBytes (evs : List CliEvent) : List (UInt8 × UInt8) :=
  evs.filterMap fun
    | .send commId b => some (commId, b)
    | _ => none

/-- The commands executed and the lines reported. -/
def actions (evs : List CliEvent) : List CliEvent :=
  evs.filter fun
    | .send _ _ => false
    | _ => true

theorem sentBytes_append (evs evs' : List CliEvent) :
    sentBytes (evs ++ evs') = sentBytes evs ++ sentBytes evs' := List.filterMap_append

theorem actions_append (evs evs' : List CliEvent) :
    actions (evs ++ evs') = actions evs ++ actions evs' := List.filter_append ..

theorem sentBytes_send (commId : UInt8) (bs : List UInt8) :
    sentBytes (bs.map (CliEvent.send commId)) = bs.map (commId, ·) := by
  induction bs with
  | nil => rfl
  | cons b bs ih =>
      show (commId, b) :: sentBytes (bs.map (CliEvent.send commId)) = _
      rw [ih]
      rfl

theorem actions_send (commId : UInt8) (bs : List UInt8) :
    actions (bs.map (CliEvent.send commId)) = [] := by
  induction bs with
  | nil => rfl
  | cons b bs ih => exact ih

theorem cliDispatchLoop_acts (line : CStr) (cmds : List Command) (start : Nat) :
    sentBytes (cliDispatchLoop line start cmds) = []
      ∧ actions (cliDispatchLoop line start cmds) = cliDispatchLoop line start cmds := by
  induction cmds generalizing start with
  | nil => exact ⟨rfl, rfl⟩
  | cons c cmds ih =>
      unfold cliDispatchLoop
      split
      · exact ⟨rfl, rfl⟩
      · exact ih (start + 1)

/-- A line sends nothing by itself. -/
theorem lineActions_acts (table : CommandTable) (line : List UInt8) :
    sentBytes (lineActions table line) = [] ∧ actions (lineActions table line)
      = lineActions table line := by
  unfold lineActions
  dsimp only
  split
  · exact ⟨rfl, rfl⟩
  · exact cliDispatchLoop_acts _ _ 0

/-- **What a stream does**, from the bytes of an unfinished line on. -/
theorem cliUpdate_lines (commId : UInt8) (table : CommandTable) :
    ∀ (unread line : List UInt8) (s : Cli), LineOpen commId table line s →
      ∃ s' evs lines tail, cliUpdate s unread = some (s', evs)
        ∧ (line ++ unread).splitOnP isLineEnd = lines ++ [tail]
        ∧ LineOpen commId table tail s'
        ∧ sentBytes evs = (unread.flatMap echo).map (commId, ·)
        ∧ actions evs = lines.flatMap (lineActions table)
  | [], line, s, h => by
      refine ⟨s, [], [], line, rfl, ?_, h, rfl, rfl⟩
      rw [List.append_nil]
      exact List.splitOnP_eq_singleton h.unfinished
  | b :: unread, line, s, h => by
      cases hb : isLineEnd b with
      | false =>
          obtain ⟨s₁, hstep, h₁⟩ := cliReceive_more h hb
          obtain ⟨s₂, evs, lines, tail, hrest, hsplit, h₂, hsent, hacts⟩ :=
            cliUpdate_lines commId table unread (line ++ [b]) s₁ h₁
          have hecho : echo b = [b] := by
            unfold echo
            rw [if_neg]
            intro hcr
            rw [hcr] at hb
            exact absurd hb (by decide)
          refine ⟨s₂, _, lines, tail, feed_cons hstep hrest, ?_, h₂, ?_, ?_⟩
          · rw [← hsplit, List.append_assoc]
            rfl
          · rw [sentBytes_append, hsent, List.flatMap_cons, hecho]
            rfl
          · rw [actions_append, hacts]
            rfl
      | true =>
          obtain ⟨s₁, hstep, h₁⟩ := cliReceive_end h hb
          obtain ⟨s₂, evs, lines, tail, hrest, hsplit, h₂, hsent, hacts⟩ :=
            cliUpdate_lines commId table unread [] s₁ h₁
          rw [List.nil_append] at hsplit
          refine ⟨s₂, _, line :: lines, tail, feed_cons hstep hrest, ?_, h₂, ?_, ?_⟩
          · rw [List.splitOnP_append_cons_of_forall_mem h.unfinished b hb, hsplit]
            rfl
          · rw [sentBytes_append, sentBytes_append, sentBytes_send, (lineActions_acts table line).1,
              hsent, List.append_nil, List.flatMap_cons, List.map_append]
          · rw [actions_append, actions_append, actions_send, (lineActions_acts table line).2,
              hacts, List.flatMap_cons]
            rfl

/-- After `cli_setup` the line is empty. -/
theorem cliSetup_open (commId : UInt8) (table : CommandTable) :
    LineOpen commId table [] (cliSetup .zeroed commId (some table)) where
  commId := rfl
  table := rfl
  unfinished := fun _ hx => absurd hx List.not_mem_nil
  idx := rfl
  kept := rfl

/--
**The command line does not depend on how its input is cut.**

For every table, every stream and every way of cutting it into the bytes that successive
calls of `cli_update` find unread: the run never leaves the buffer, with a store or with a
read; it is the run of any other way to cut the same stream, events, buffer, `cli_idx` and
all; the stream is echoed with an LF behind each CR; and each line that was finished did
what `LineDone` says, in the order of the lines.
-/
theorem cli_lines (commId : UInt8) (table : CommandTable) (calls : List (List UInt8)) :
    ∃ s evs, cliRun (cliSetup .zeroed commId (some table)) calls = some (s, evs)
      ∧ (∀ calls', calls'.flatten = calls.flatten →
        cliRun (cliSetup .zeroed commId (some table)) calls' = some (s, evs))
      ∧ sentBytes evs = (calls.flatten.flatMap fun b =>
        if b = ascii '\r' then [ascii '\r', ascii '\n'] else [b]).map (commId, ·)
      ∧ ∃ (lines : List (List UInt8)) (tail : List UInt8),
        calls.flatten.splitOnP (fun b => b = ascii '\r' || b = ascii '\n') = lines ++ [tail]
        ∧ actions evs = lines.flatMap (lineActions table)
        ∧ (∀ line ∈ lines, LineDone table line (lineActions table line))
        ∧ s.idx = min tail.length 63 ∧ s.buffer.toList.take s.idx = tail.take 63 := by
  obtain ⟨s, evs, lines, tail, hrun, hsplit, hopen, hsent, hacts⟩ :=
    cliUpdate_lines commId table calls.flatten [] _ (cliSetup_open commId table)
  have hcut : ∀ calls', calls'.flatten = calls.flatten →
      cliRun (cliSetup .zeroed commId (some table)) calls' = some (s, evs) := by
    intro calls' h
    unfold cliRun
    rw [show cliUpdate = feed cliReceive from rfl, feed_flatten, h]
    exact hrun
  exact ⟨s, evs, hcut calls rfl, hcut, hsent, lines, tail, hsplit, hacts,
    fun line _ => lineActions_done table line, hopen.idx, hopen.kept⟩

end FwCore.Proof
