import FwCore.Core.ConsoleCommands
import FwCore.Proof.ConsoleTranscript

/-!
# A console whose commands call it

`cli_update` forgets the line before it runs the command, and looks at the port and the table
anew in every pass. So a command finds the module between two lines, and may do with it what
the program may: the loop that called it goes on from what it left. What is seen is what is
seen of a console whose commands do the same.
-/

namespace FwCore.Proof

open FwCore Lib

/-! ## What is unread -/

theorem take_length {port : UInt8} {inbox rest : Inbox} {b : UInt8}
    (h : inbox.take port = some (b, rest)) : inbox.length = rest.length + 1 := by
  induction inbox generalizing rest with
  | nil => cases h
  | cons entry inbox ih =>
      unfold Inbox.take at h
      split at h
      · obtain ⟨-, rfl⟩ := Prod.mk.inj (Option.some.inj h)
        rfl
      · obtain ⟨⟨b', rest'⟩, htake, heq⟩ := Option.map_eq_some_iff.mp h
        obtain ⟨rfl, rfl⟩ := Prod.mk.inj heq
        rw [List.length_cons, ih htake, List.length_cons]

/-! ## Following -/

/-- The module, when the console and what is unread are these. -/
structure FollowsWorld (c : ConsoleWorld) (w : CliWorld) : Prop where
  console : Follows c.console w.cli
  inbox : w.inbox = c.inbox

/-- What the module does, and the console does it too. -/
def FollowsConsole (f : CliWorld → Option (CliWorld × List CliEvent))
    (g : ConsoleWorld → ConsoleWorld × List ConsoleOut) : Prop :=
  ∀ c w, FollowsWorld c w →
    ∃ w' evs, f w = some (w', evs) ∧ FollowsWorld (g c).1 w' ∧ SeenAllAs evs (g c).2

/-- A command that is called is seen. -/
theorem isExecute_isRun {evs : List CliEvent} {outs : List ConsoleOut} (h : SeenAllAs evs outs) :
    evs.any CliEvent.isExecute = outs.any ConsoleOut.isRun := by
  induction h with
  | nil => rfl
  | cons hseen _ ih =>
      rw [List.any_cons, List.any_cons, ih]
      cases hseen with
      | send port b => rfl
      | execute i fn => rfl
      | uprint h => rfl

/-- **The loop of `cli_update`**, whose commands do what is meant. -/
theorem cliLoop_follows {command : Nat → CliWorld → Option (CliWorld × List CliEvent)}
    {command' : Nat → ConsoleWorld → ConsoleWorld × List ConsoleOut}
    (hcommand : ∀ k, FollowsConsole (command k) (command' k)) (fuel k : Nat) :
    FollowsConsole (cliLoop command fuel k) (consoleLoop command' fuel k) := by
  induction fuel generalizing k with
  | zero => exact fun c w h => ⟨w, [], rfl, h, .nil⟩
  | succ fuel ih =>
      intro c w h
      have hport : w.inbox.take w.cli.commId = c.inbox.take c.console.port := by
        rw [h.inbox, h.console.port]
      unfold cliLoop consoleLoop
      dsimp only
      rw [hport]
      cases htake : c.inbox.take c.console.port with
      | none => exact ⟨w, [], rfl, h, .nil⟩
      | some r =>
          obtain ⟨b, inbox⟩ := r
          obtain ⟨s, evs, hstep, hfollows, hseen⟩ := cliReceive_console h.console b
          have hreceived : FollowsWorld ⟨(c.console.receive b).1, inbox⟩ ⟨s, inbox⟩ :=
            ⟨hfollows, rfl⟩
          dsimp only
          rw [hstep]
          dsimp only [Option.bind_eq_bind, Option.bind_some]
          rw [isExecute_isRun hseen]
          cases (c.console.receive b).2.any ConsoleOut.isRun with
          | false =>
              obtain ⟨w', rest, hrun, hend, hrest⟩ := ih (k + 1) _ _ hreceived
              refine ⟨w', evs ++ rest, ?_, hend, hseen.append hrest⟩
              rw [if_neg Bool.false_ne_true]
              rw [hrun]
              rfl
          | true =>
              obtain ⟨w₁, called, hcall, hcalled, hseen'⟩ := hcommand k _ _ hreceived
              obtain ⟨w', rest, hrun, hend, hrest⟩ := ih (k + 1) _ _ hcalled
              refine ⟨w', evs ++ (called ++ rest), ?_, hend, hseen.append (hseen'.append hrest)⟩
              rw [if_pos rfl, hcall]
              dsimp only [Option.bind_some]
              rw [hrun]
              rfl

/-- **A script does what is meant**, the commands it runs included. -/
theorem runCommand_follows (script : CliScript) :
    FollowsConsole (runCommand script) (consoleScript script) := by
  induction script with
  | done => exact fun c w h => ⟨w, [], rfl, h, .nil⟩
  | setup commId table rest ih =>
      intro c w h
      obtain ⟨s, evs, hcall, hfollows, _⟩ := consoleCall_console h.console (.setup commId table)
      obtain ⟨rfl, -⟩ := Prod.mk.inj (Option.some.inj hcall)
      exact ih _ _ ⟨hfollows, h.inbox⟩
  | help rest ih =>
      intro c w h
      obtain ⟨s, evs, hcall, _, hseen⟩ := consoleCall_console h.console .help
      obtain ⟨-, rfl⟩ := Prod.mk.inj (Option.some.inj hcall)
      obtain ⟨w', after, hrun, hend, hrest⟩ := ih _ _ h
      refine ⟨w', _, ?_, hend, hseen.append hrest⟩
      unfold runCommand
      rw [hrun]
      rfl
  | update command rest ihcommand ih =>
      intro c w h
      obtain ⟨w₁, evs, hloop, hupdated, hseen⟩ :=
        cliLoop_follows ihcommand c.inbox.length 0 c w h
      obtain ⟨w', after, hrun, hend, hrest⟩ := ih _ _ hupdated
      refine ⟨w', evs ++ after, ?_, hend, hseen.append hrest⟩
      unfold runCommand
      rw [h.inbox, hloop]
      dsimp only [Option.bind_eq_bind, Option.bind_some]
      rw [hrun]
      rfl

theorem cliProgram_follows (turns : List (Inbox × CliScript)) :
    FollowsConsole (fun w => cliProgram w turns) (fun c => consoleProgram c turns) := by
  induction turns with
  | nil => exact fun c w h => ⟨w, [], rfl, h, .nil⟩
  | cons turn turns ih =>
      intro c w h
      have hcame : FollowsWorld { c with inbox := c.inbox ++ turn.1 }
          { w with inbox := w.inbox ++ turn.1 } := ⟨h.console, congrArg (· ++ turn.1) h.inbox⟩
      obtain ⟨w₁, evs, hrun, hfollows, hseen⟩ := runCommand_follows turn.2 _ _ hcame
      obtain ⟨w', rest, hturns, hend, hrest⟩ := ih _ _ hfollows
      exact ⟨w', evs ++ rest, feed_cons hrun hturns, hend, hseen.append hrest⟩

/-! ## Nothing is left unread -/

/-- A script leaves no more unread than there was, and so does a loop of such. -/
theorem consoleLoop_length {command : Nat → ConsoleWorld → ConsoleWorld × List ConsoleOut}
    (hcommand : ∀ k c, (command k c).1.inbox.length ≤ c.inbox.length) (fuel k : Nat)
    (c : ConsoleWorld) : (consoleLoop command fuel k c).1.inbox.length ≤ c.inbox.length := by
  induction fuel generalizing k c with
  | zero => exact Nat.le_refl _
  | succ fuel ih =>
      unfold consoleLoop
      cases htake : c.inbox.take c.console.port with
      | none => exact Nat.le_refl _
      | some r =>
          obtain ⟨b, inbox⟩ := r
          have hlen := take_length htake
          dsimp only
          split
          · have hcalled := hcommand k ⟨(c.console.receive b).1, inbox⟩
            have hrest := ih (k + 1) (command k ⟨(c.console.receive b).1, inbox⟩).1
            dsimp only at hcalled
            omega
          · refine Nat.le_trans (ih (k + 1) ⟨(c.console.receive b).1, inbox⟩) ?_
            dsimp only
            omega

theorem consoleScript_length (script : CliScript) (c : ConsoleWorld) :
    (consoleScript script c).1.inbox.length ≤ c.inbox.length := by
  induction script generalizing c with
  | done => exact Nat.le_refl _
  | setup port table rest ih => exact ih _
  | help rest ih => exact ih c
  | update command rest ihcommand ih =>
      exact Nat.le_trans (ih _) (consoleLoop_length ihcommand c.inbox.length 0 c)

/-- **The loop ends because there is nothing more to read.** -/
theorem consoleLoop_drains {command : Nat → ConsoleWorld → ConsoleWorld × List ConsoleOut}
    (hcommand : ∀ k c, (command k c).1.inbox.length ≤ c.inbox.length) (fuel k : Nat)
    (c : ConsoleWorld) (hf : c.inbox.length ≤ fuel) :
    let after := (consoleLoop command fuel k c).1
    after.inbox.take after.console.port = none := by
  induction fuel generalizing k c with
  | zero =>
      have hempty : c.inbox = [] := List.eq_nil_of_length_eq_zero (Nat.le_zero.mp hf)
      show c.inbox.take c.console.port = none
      rw [hempty]
      rfl
  | succ fuel ih =>
      unfold consoleLoop
      cases htake : c.inbox.take c.console.port with
      | none => exact htake
      | some r =>
          obtain ⟨b, inbox⟩ := r
          have hlen := take_length htake
          dsimp only
          split
          · have hcalled := hcommand k ⟨(c.console.receive b).1, inbox⟩
            dsimp only at hcalled
            exact ih (k + 1) _ (by omega)
          · refine ih (k + 1) ⟨(c.console.receive b).1, inbox⟩ ?_
            dsimp only
            omega

/-! ## Commands that do not -/

/-- What waits at a port. -/
def unread (port : UInt8) (inbox : Inbox) : List UInt8 :=
  (inbox.filter (·.1 = port)).map Prod.snd

/-- What waits at the others. -/
def elsewhere (port : UInt8) (inbox : Inbox) : Inbox := inbox.filter (·.1 ≠ port)

theorem take_unread (port : UInt8) (inbox : Inbox) :
    match inbox.take port with
    | none => unread port inbox = [] ∧ elsewhere port inbox = inbox
    | some (b, rest) => unread port inbox = b :: unread port rest
      ∧ elsewhere port inbox = elsewhere port rest := by
  induction inbox with
  | nil => exact ⟨rfl, rfl⟩
  | cons entry inbox ih =>
      unfold Inbox.take unread elsewhere
      by_cases hport : entry.1 = port
      · rw [if_pos hport]
        simp [hport]
      · rw [if_neg hport]
        unfold unread elsewhere at ih
        cases htake : Inbox.take port inbox with
        | none =>
            rw [htake] at ih
            simpa [hport] using ih
        | some r =>
            rw [htake] at ih
            simpa [hport] using ih

/-- A byte does not change the port. -/
theorem cliReceive_commId {s s' : Cli} {b : UInt8} {evs : List CliEvent}
    (h : cliReceive s b = some (s', evs)) : s'.commId = s.commId := by
  have hstore : ∀ {ch : UInt8} {s'' : Cli}, s.store ch = some s'' → s''.commId = s.commId := by
    intro ch s'' hs
    unfold Cli.store at hs
    split at hs
    · obtain rfl := Option.some.inj hs
      rfl
    · cases hs
  unfold cliReceive at h
  dsimp only at h
  -- whatever has been made of the byte
  generalize (if b = ascii '\r' then (ascii '\n', [CliEvent.send s.commId b]
    ++ [CliEvent.send s.commId (ascii '\n')]) else (b, [CliEvent.send s.commId b])) = made at h
  split at h
  · split at h
    · cases h
    · rename_i s₁ hs
      obtain ⟨done, _, heq⟩ := Option.map_eq_some_iff.mp h
      obtain ⟨rfl, -⟩ := Prod.mk.inj heq
      have hport : s₁.commId = s.commId := hstore hs
      exact hport
  · split at h
    · obtain ⟨s₁, hs, heq⟩ := Option.map_eq_some_iff.mp h
      obtain ⟨rfl, -⟩ := Prod.mk.inj heq
      have hport : s₁.commId = s.commId := hstore hs
      exact hport
    · obtain ⟨rfl, -⟩ := Prod.mk.inj (Option.some.inj h)
      rfl

/-- **A loop whose commands leave the module alone** is `cliUpdate`. -/
theorem cliLoop_quiet (fuel k : Nat) (s : Cli) (inbox : Inbox) (hf : inbox.length ≤ fuel) :
    cliLoop (fun _ w => some (w, [])) fuel k ⟨s, inbox⟩
      = (cliUpdate s (unread s.commId inbox)).map fun r =>
        (⟨r.1, elsewhere s.commId inbox⟩, r.2) := by
  induction fuel generalizing k s inbox with
  | zero =>
      obtain rfl := List.eq_nil_of_length_eq_zero (Nat.le_zero.mp hf)
      rfl
  | succ fuel ih =>
      have hsplit := take_unread s.commId inbox
      unfold cliLoop
      dsimp only
      cases htake : inbox.take s.commId with
      | none =>
          rw [htake] at hsplit
          rw [hsplit.1, hsplit.2]
          rfl
      | some r =>
          obtain ⟨b, rest⟩ := r
          rw [htake] at hsplit
          have hlen := take_length htake
          dsimp only
          rw [hsplit.1, hsplit.2]
          unfold cliUpdate feed
          cases hstep : cliReceive s b with
          | none => rfl
          | some received =>
              obtain ⟨s', evs⟩ := received
              have hport := cliReceive_commId hstep
              have hrest := ih (k + 1) s' rest (by omega)
              rw [hport] at hrest
              dsimp only [Option.bind_eq_bind, Option.bind_some]
              rw [ite_self, hrest]
              unfold cliUpdate
              cases feed cliReceive s' (unread s.commId rest) with
              | none => rfl
              | some r => rfl

/--
**The command line is a console whose commands call it.**

For every program that sets the module up, reads what has come and asks for help, whose
commands may do all of that as well, themselves called by commands to any depth, and whatever
comes at whatever port: no call leaves the buffer, what is seen, byte for byte, is what is seen
of a console whose commands do the same, and of an unfinished line the buffer holds what will
count. And `cli_update`, whatever the commands it runs have read and set up, returns when
there is nothing more to read at the port of the time.
-/
theorem commands_call_the_console (turns : List (Inbox × CliScript)) :
    let console := consoleProgram ⟨.zeroed, []⟩ turns
    ∃ w evs, cliProgram ⟨.zeroed, []⟩ turns = some (w, evs)
      ∧ SeenAllAs evs console.2
      ∧ FollowsWorld console.1 w
      ∧ ∀ command, ∃ w' evs', runCommand (.update command .done) w = some (w', evs')
        ∧ w'.inbox.take w'.cli.commId = none := by
  intro console
  obtain ⟨w, evs, hrun, h, hseen⟩ := cliProgram_follows turns ⟨.zeroed, []⟩ ⟨.zeroed, []⟩
    ⟨follows_zeroed, rfl⟩
  refine ⟨w, evs, hrun, hseen, h, fun command => ?_⟩
  obtain ⟨w', evs', hupdate, h', _⟩ := runCommand_follows (.update command .done) _ _ h
  refine ⟨w', evs', hupdate, ?_⟩
  rw [h'.inbox, h'.console.port]
  exact consoleLoop_drains (fun k => consoleScript_length (command k)) _ 0 _ (Nat.le_refl _)

end FwCore.Proof
