import FwCore.Bsp.Button
import FwCore.Lib.History
import FwCore.Lib.Mailbox

/-!
# What a button reports

The events a button stores come in presses: `PRESSED`, perhaps one `HELD`,
`RELEASED`, and again. Nothing here depends on the clock. The state alone does not
show it: a glitch on release takes `held` back to `pressed`, where the hold is
polled again. What stops a second `HELD` is that the hold timer is one-shot and has
fired; `EventShape` carries that along with the state and `isPressed`.

What the program gets to see of these events is another matter: `pending_event` is a
one-place mailbox, put into by `button_update` and emptied by `button_getEvent`, so
two events between two polls leave the second one only.
-/

namespace FwCore.Proof

open FwCore Lib

/-! ## The grammar -/

/-- The events of one press, with the hold reported or not. -/
def press (reported : Bool) : List ButtonEvent :=
  if reported then [.pressed, .held, .released] else [.pressed, .released]

/-- The events of a press under way. -/
def pressBegun (reported : Bool) : List ButtonEvent :=
  if reported then [.pressed, .held] else [.pressed]

theorem press_eq (reported : Bool) : press reported = pressBegun reported ++ [.released] := by
  cases reported with
  | true => rfl
  | false => rfl

/-- The last press or release of a history. -/
def lastPressRelease (evs : List ButtonEvent) : Option ButtonEvent :=
  (evs.filter fun e => e = .pressed ∨ e = .released).getLast?

theorem lastPressRelease_append {e : ButtonEvent} {evs evs' : List ButtonEvent}
    (h : lastPressRelease evs' = some e) : lastPressRelease (evs ++ evs') = some e := by
  unfold lastPressRelease at h ⊢
  rw [List.filter_append, List.getLast?_append, h]
  rfl

theorem lastPressRelease_begun (evs : List ButtonEvent) (reported : Bool) :
    lastPressRelease (evs ++ pressBegun reported) = some .pressed := by
  apply lastPressRelease_append
  cases reported with
  | true => rfl
  | false => rfl

/-- Between presses the last event is a release, if there is one at all. -/
theorem lastPressRelease_presses (ks : List Bool) :
    lastPressRelease (ks.flatMap press) ≠ some .pressed := by
  rcases List.eq_nil_or_concat ks with rfl | ⟨ks, k, rfl⟩
  · exact fun h => absurd h (by decide)
  · rw [List.concat_eq_append, List.flatMap_append, List.flatMap_singleton, press_eq,
      ← List.append_assoc, lastPressRelease_append (e := .released) rfl]
    exact fun h => absurd h (by decide)

/-! ## The invariant -/

/-- Whole presses `ks` and an open one, as the fields of the button show them. -/
inductive EventShape (btn : Button) (ks : List Bool) : Prop where
  /-- No press is under way. -/
  | released (hs : btn.state = .idle ∨ btn.state = .debounce)
      (hp : btn.isPressed = false)
      (hev : RoundsOf press ks [] btn.stored)
  /-- A press is under way; its hold has been reported or not. -/
  | pressed (reported : Bool)
      (hs : btn.state = .pressed ∨ btn.state = .held ∨ btn.state = .releaseDb)
      (hp : btn.isPressed = true)
      (hev : RoundsOf press ks (pressBegun reported) btn.stored)
      (hlatch : reported = true → 0 < btn.holdTimeMs ∧ btn.holdTimer.hasElapsed = true)

/-- What holds of every button a program can hold. -/
structure EventsOk (btn : Button) (ks : List Bool) : Prop where
  /-- The hold timer is one-shot, set up or not. -/
  oneShot : btn.holdTimer.autoReset = false
  /-- Presses whose hold was reported are those of a button with a hold time. -/
  holds : ∀ k ∈ ks, k = true → 0 < btn.holdTimeMs
  shape : EventShape btn ks

/-- What the invariant looks at. -/
theorem EventsOk.frame {btn btn' : Button} {ks : List Bool} (h : EventsOk btn ks)
    (hstate : btn'.state = btn.state) (hpressed : btn'.isPressed = btn.isPressed)
    (hstored : btn'.stored = btn.stored) (hhold : btn'.holdTimeMs = btn.holdTimeMs)
    (htimer : btn'.holdTimer = btn.holdTimer) : EventsOk btn' ks := by
  refine ⟨by rw [htimer]; exact h.oneShot, by rw [hhold]; exact h.holds, ?_⟩
  cases h.shape with
  | released hs hp hev =>
      exact .released (by rw [hstate]; exact hs) (hpressed.trans hp) (by rw [hstored]; exact hev)
  | pressed reported hs hp hev hlatch =>
      exact .pressed reported (by rw [hstate]; exact hs) (hpressed.trans hp)
        (by rw [hstored]; exact hev) (by rw [hhold, htimer]; exact hlatch)

theorem eventsOk_created (name : Option CStr) (pinId : UInt8) (debounceMs holdTimeMs uuid : UInt32) :
    EventsOk (.created name pinId debounceMs holdTimeMs uuid) [] where
  oneShot := rfl
  holds := fun k hk => absurd hk (by simp)
  shape := .released (Or.inl rfl) rfl rfl

/-- Polling a one-shot timer leaves it one-shot. -/
theorem hasElapsed_oneShot_stays {t : SimpleTimer} (now : UInt64) (h : t.autoReset = false) :
    (simpleTimerHasElapsed t now).2.autoReset = false := by
  unfold simpleTimerHasElapsed
  dsimp only
  repeat' split
  all_goals exact h

/-- A one-shot timer that answers has latched, and had not before. -/
theorem hasElapsed_answer {t : SimpleTimer} {now : UInt64} (ha : t.autoReset = false)
    (he : (simpleTimerHasElapsed t now).1 = true) :
    t.hasElapsed = false ∧ (simpleTimerHasElapsed t now).2.hasElapsed = true := by
  cases hl : t.hasElapsed with
  | true =>
      rw [hasElapsed_latched now hl] at he
      exact absurd he (by simp)
  | false =>
      refine ⟨rfl, ?_⟩
      rcases UInt64.lt_or_le now t.targetTime with hlt | hle
      · rw [hasElapsed_early hlt] at he
        exact absurd he (by simp)
      · rw [hasElapsed_oneShot hl ha hle]

/-! ## One update -/

section Step

variable {btn : Button} {ks : List Bool} (env : ButtonEnv)

/-- From between presses: at most the press is confirmed. -/
theorem eventsOk_update_released (h : EventsOk btn ks)
    (hs : btn.state = .idle ∨ btn.state = .debounce) (hp : btn.isPressed = false)
    (hev : RoundsOf press ks [] btn.stored) : EventsOk (buttonUpdate btn env) ks := by
  rcases hs with hs | hs
  · cases ha : readPinActive btn env.pin with
    | false => rw [update_idle_low env hs ha]; exact h
    | true =>
        rw [update_idle_high env hs ha]
        exact ⟨h.oneShot, h.holds, .released (Or.inr rfl) hp hev⟩
  · cases ha : readPinActive btn env.pin with
    | false =>
        rw [update_debounce_low env hs ha]
        exact ⟨h.oneShot, h.holds, .released (Or.inl rfl) hp hev⟩
    | true =>
        cases he : (simpleTimerHasElapsed btn.debounceTimer env.elapsedNow).1 with
        | false =>
            rw [update_debounce_wait env hs ha he]
            exact ⟨h.oneShot, h.holds, .released (Or.inr hs) hp hev⟩
        | true =>
            -- the press opens, its hold not reported
            rw [update_debounce_press env hs ha he]
            refine ⟨?_, h.holds, .pressed false (Or.inl rfl) rfl ?_ (fun hr => absurd hr (by simp))⟩
            · show (if btn.holdTimeMs > 0 then _ else btn.holdTimer).autoReset = false
              split
              · rfl
              · exact h.oneShot
            · unfold RoundsOf at hev ⊢
              rw [List.append_nil] at hev
              show btn.stored ++ _ = _
              rw [hev]
              rfl

/-- During a press: the hold is reported if it was not yet, or the press ends. -/
theorem eventsOk_update_pressed (h : EventsOk btn ks) {reported : Bool}
    (hs : btn.state = .pressed ∨ btn.state = .held ∨ btn.state = .releaseDb)
    (hp : btn.isPressed = true) (hev : RoundsOf press ks (pressBegun reported) btn.stored)
    (hlatch : reported = true → 0 < btn.holdTimeMs ∧ btn.holdTimer.hasElapsed = true) :
    ∃ ks', EventsOk (buttonUpdate btn env) ks' := by
  -- an update that stores nothing and leaves the hold timer alone
  have hsame : ∀ b : Button, b.stored = btn.stored → b.isPressed = btn.isPressed →
      b.holdTimer = btn.holdTimer → b.holdTimeMs = btn.holdTimeMs →
      (b.state = .pressed ∨ b.state = .held ∨ b.state = .releaseDb) → EventsOk b ks := by
    intro b hst hpr htm hms hstate
    refine ⟨by rw [htm]; exact h.oneShot, by rw [hms]; exact h.holds,
      .pressed reported hstate (hpr.trans hp) (by rw [hst]; exact hev) ?_⟩
    rw [hms, htm]
    exact hlatch
  rcases hs with hs | hs | hs
  · cases ha : readPinActive btn env.pin with
    | false =>
        rw [update_release env (Or.inl hs) ha]
        exact ⟨ks, hsame _ rfl rfl rfl rfl (Or.inr (Or.inr rfl))⟩
    | true =>
        by_cases hh : btn.holdTimeMs > 0
        · cases he : (simpleTimerHasElapsed btn.holdTimer env.elapsedNow).1 with
          | false =>
              rw [update_pressed_wait env hs ha hh he]
              refine ⟨ks, hasElapsed_oneShot_stays _ h.oneShot, h.holds,
                .pressed reported (Or.inl hs) hp hev (fun hr => ⟨hh, ?_⟩)⟩
              show (simpleTimerHasElapsed btn.holdTimer env.elapsedNow).2.hasElapsed = true
              rw [hasElapsed_latched _ (hlatch hr).2]
              exact (hlatch hr).2
          | true =>
              -- the timer has answered, so it had not latched: the hold was not reported
              obtain ⟨hfresh, hlatched⟩ := hasElapsed_answer h.oneShot he
              have hr : reported = false := by
                cases hr : reported with
                | true => rw [(hlatch hr).2] at hfresh; exact absurd hfresh (by simp)
                | false => rfl
              rw [update_pressed_hold env hs ha hh he]
              refine ⟨ks, hasElapsed_oneShot_stays _ h.oneShot, h.holds,
                .pressed true (Or.inr (Or.inl rfl)) hp ?_ (fun _ => ⟨hh, hlatched⟩)⟩
              unfold RoundsOf at hev ⊢
              show btn.stored ++ _ = _
              rw [hev, hr, List.append_assoc]
              rfl
        · rw [update_pressed_noHold env hs ha hh]
          exact ⟨ks, h⟩
  · cases ha : readPinActive btn env.pin with
    | false =>
        rw [update_release env (Or.inr hs) ha]
        exact ⟨ks, hsame _ rfl rfl rfl rfl (Or.inr (Or.inr rfl))⟩
    | true => rw [update_held_high env hs ha]; exact ⟨ks, h⟩
  · cases ha : readPinActive btn env.pin with
    | true =>
        -- a glitch: back to `pressed`, the hold timer as it was
        rw [update_releaseDb_high env hs ha]
        exact ⟨ks, hsame _ rfl rfl rfl rfl (Or.inl rfl)⟩
    | false =>
        cases he : (simpleTimerHasElapsed btn.debounceTimer env.elapsedNow).1 with
        | false =>
            rw [update_releaseDb_wait env hs ha he]
            exact ⟨ks, hsame _ rfl rfl rfl rfl (Or.inr (Or.inr hs))⟩
        | true =>
            -- the round closes
            rw [update_releaseDb_release env hs ha he]
            refine ⟨ks ++ [reported], h.oneShot, fun k hk hkt => ?_,
              .released (Or.inl rfl) rfl (hev.finish (press_eq reported))⟩
            rcases List.mem_append.mp hk with hk | hk
            · exact h.holds k hk hkt
            · rw [List.mem_singleton.mp hk] at hkt
              exact (hlatch hkt).1

end Step

theorem eventsOk_update {btn : Button} {ks : List Bool} (h : EventsOk btn ks) (env : ButtonEnv) :
    ∃ ks', EventsOk (buttonUpdate btn env) ks' := by
  cases h.shape with
  | released hs hp hev => exact ⟨ks, eventsOk_update_released env h hs hp hev⟩
  | pressed reported hs hp hev hlatch => exact eventsOk_update_pressed env h hs hp hev hlatch

/-- **The invariant holds of every button**, for any levels, read results and clock. -/
theorem eventsOk_reachable {btn : Button} (h : ButtonReachable btn) : ∃ ks, EventsOk btn ks := by
  induction h with
  | created name pinId debounceMs holdTimeMs uuid =>
      exact ⟨[], eventsOk_created name pinId debounceMs holdTimeMs uuid⟩
  | update env _ ih =>
      obtain ⟨ks, hok⟩ := ih
      exact eventsOk_update hok env
  | getEvent _ ih =>
      obtain ⟨ks, hok⟩ := ih
      exact ⟨ks, hok.frame rfl rfl rfl rfl rfl⟩
  | invertLogic _ ih =>
      obtain ⟨ks, hok⟩ := ih
      exact ⟨ks, hok.frame rfl rfl rfl rfl rfl⟩

/-! ## What the events say -/

/-- No press of a button without a hold time reports one. -/
theorem held_not_mem {ks : List Bool} (h : ∀ k ∈ ks, k = false) :
    ButtonEvent.held ∉ ks.flatMap press := by
  intro hm
  obtain ⟨k, hk, hmem⟩ := List.mem_flatMap.mp hm
  rw [h k hk] at hmem
  exact absurd hmem (by decide)

/--
**The grammar of button events.**

Of every button, after any run of updates (and of the other calls that can be made on it): the
stored events are a prefix of presses, each with at most one `HELD`; `button_isPressed` says
whether the last press or release was a press; without a hold time there is no `HELD`. What the
next update stores it leaves in `pending_event`, and otherwise it leaves that alone.
-/
theorem buttonEvents_grammar {btn : Button} (h : ButtonReachable btn) :
    (∃ ks : List Bool, btn.stored <+: ks.flatMap press)
      ∧ (buttonIsPressed btn = true ↔ lastPressRelease btn.stored = some .pressed)
      ∧ (btn.holdTimeMs = 0 → ButtonEvent.held ∉ btn.stored)
      ∧ ∀ env, LeftPending btn (buttonUpdate btn env) := by
  obtain ⟨ks, hok⟩ := eventsOk_reachable h
  -- without a hold time, every press so far is one without a hold
  have hfalse : btn.holdTimeMs = 0 → ∀ k ∈ ks, k = false := by
    intro h0 k hk
    cases hkt : k with
    | false => rfl
    | true =>
        have hpos := hok.holds k hk hkt
        rw [h0] at hpos
        exact absurd hpos (by decide)
  cases hok.shape with
  | released hs hp hev =>
      rw [RoundsOf, List.append_nil] at hev
      refine ⟨⟨ks, [], by rw [List.append_nil, hev]⟩, ?_, fun h0 => ?_, update_leftPending btn⟩
      · rw [buttonIsPressed, hp, hev]
        exact ⟨fun hf => absurd hf (by simp), fun hl => absurd hl (lastPressRelease_presses ks)⟩
      · rw [hev]
        exact held_not_mem (hfalse h0)
  | pressed reported hs hp hev hlatch =>
      refine ⟨⟨ks ++ [reported], hev.prefix (press_eq reported)⟩, ?_, fun h0 => ?_,
        update_leftPending btn⟩
      · rw [buttonIsPressed, hp, hev]
        exact ⟨fun _ => lastPressRelease_begun _ _, fun _ => rfl⟩
      · have hr : reported = false := by
          cases hr : reported with
          | false => rfl
          | true =>
              have hpos := (hlatch hr).1
              rw [h0] at hpos
              exact absurd hpos (by decide)
        rw [hev, hr]
        intro hm
        rcases List.mem_append.mp hm with hm | hm
        · exact held_not_mem (hfalse h0) hm
        · exact absurd hm (by decide)

/-- A button pressed, held, and released with a glitch on the way, on a clock that jumps about. -/
def glitchyPress : List ButtonEnv :=
  [⟨⟨.ok, some ioPinHigh⟩, 0, 0⟩, ⟨⟨.ok, some ioPinHigh⟩, 5, 5⟩, ⟨⟨.ok, some ioPinHigh⟩, 30, 2⟩,
    ⟨⟨.ok, some ioPinLow⟩, 1, 1⟩, ⟨⟨.ok, some ioPinHigh⟩, 90, 9⟩, ⟨⟨.ok, some ioPinHigh⟩, 99, 9⟩]

theorem glitchyPress_reachable :
    ButtonReachable (glitchyPress.foldl buttonUpdate (.created none 3 5 20 7)) := by
  unfold glitchyPress
  simp only [List.foldl_cons, List.foldl_nil]
  repeat' apply ButtonReachable.update
  exact .created none 3 5 20 7

theorem glitchyPress_grammar :
    (glitchyPress.foldl buttonUpdate (.created none 3 5 20 7)).stored = [.pressed, .held]
      ∧ (∃ ks : List Bool, [ButtonEvent.pressed, .held] <+: ks.flatMap press)
      ∧ ∀ env, LeftPending (glitchyPress.foldl buttonUpdate (.created none 3 5 20 7))
        (buttonUpdate (glitchyPress.foldl buttonUpdate (.created none 3 5 20 7)) env) := by
  obtain ⟨hpresses, _, _, hpending⟩ := buttonEvents_grammar glitchyPress_reachable
  exact ⟨by decide, hpresses, hpending⟩

/-! ## What the program gets to see -/

/-- What can be called on a button after it has been created. -/
inductive ButtonOp where
  | update (env : ButtonEnv)
  | getEvent
  | invertLogic

/-- The button after a call. -/
def buttonStep (btn : Button) : ButtonOp → Button
  | .update env => buttonUpdate btn env
  | .getEvent => (buttonGetEvent btn).2
  | .invertLogic => buttonInvertLogic btn

/-- The button after a run of calls. -/
def buttonRun (btn : Button) (ops : List ButtonOp) : Button := ops.foldl buttonStep btn

/-- An event, unless it is `BUTTON_EVENT_NONE`. -/
def eventOf : ButtonEvent → Option ButtonEvent
  | .none => none
  | ev => some ev

theorem eventOf_some {ev : ButtonEvent} (h : ev ≠ .none) : eventOf ev = some ev := by
  cases ev with
  | none => exact absurd rfl h
  | pressed | released | held => rfl

/-- What `button_getEvent` returned during a run, `BUTTON_EVENT_NONE` left out. -/
def returned : Button → List ButtonOp → List ButtonEvent
  | _, [] => []
  | btn, .getEvent :: ops =>
    (eventOf (buttonGetEvent btn).1).toList ++ returned (buttonStep btn .getEvent) ops
  | btn, op :: ops => returned (buttonStep btn op) ops

/-- The events an update stores. -/
def produced (btn : Button) (env : ButtonEnv) : List ButtonEvent :=
  (buttonUpdate btn env).stored.drop btn.stored.length

/-- A run as its mailbox sees it: events produced, and polls. -/
def timeline : Button → List ButtonOp → List (MailOp ButtonEvent)
  | _, [] => []
  | btn, .update env :: ops =>
    (produced btn env).map .put ++ timeline (buttonStep btn (.update env)) ops
  | btn, .getEvent :: ops => .take :: timeline (buttonStep btn .getEvent) ops
  | btn, .invertLogic :: ops => timeline (buttonStep btn .invertLogic) ops

/-- **An update stores nothing and leaves the mailbox alone, or stores one event and puts it
there.** -/
theorem update_produced (btn : Button) (env : ButtonEnv) :
    (produced btn env = [] ∧ (buttonUpdate btn env).stored = btn.stored
        ∧ (buttonUpdate btn env).pendingEvent = btn.pendingEvent)
      ∨ ∃ ev, eventOf ev = some ev ∧ produced btn env = [ev]
        ∧ (buttonUpdate btn env).stored = btn.stored ++ [ev]
        ∧ (buttonUpdate btn env).pendingEvent = ev := by
  unfold produced
  rcases update_leftPending btn env with ⟨hst, hpe⟩ | ⟨ev, hev, hst, hpe⟩
  · exact Or.inl ⟨by rw [hst, List.drop_length], hst, hpe⟩
  · exact Or.inr ⟨ev, eventOf_some hev, by rw [hst, List.drop_left], hst, hpe⟩

/-- The events stored over a run are those put into the mailbox. -/
theorem buttonRun_stored :
    ∀ (btn : Button) (ops : List ButtonOp),
      (buttonRun btn ops).stored = btn.stored ++ puts (timeline btn ops)
  | btn, [] => (List.append_nil btn.stored).symm
  | btn, .update env :: ops => by
      have ih := buttonRun_stored (buttonUpdate btn env) ops
      show (buttonRun (buttonUpdate btn env) ops).stored = _
      rw [ih, timeline, puts_append]
      rcases update_produced btn env with ⟨hpr, hst, _⟩ | ⟨ev, _, hpr, hst, _⟩
      · rw [hpr, hst]; rfl
      · rw [hpr, hst, List.append_assoc]; rfl
  | btn, .getEvent :: ops => buttonRun_stored (buttonGetEvent btn).2 ops
  | btn, .invertLogic :: ops => buttonRun_stored (buttonInvertLogic btn) ops

/-- **`pending_event` is the slot of a mailbox, and `button_getEvent` takes from it.** -/
theorem buttonRun_mailbox :
    ∀ (btn : Button) (ops : List ButtonOp) (taken : List ButtonEvent),
      (mailRun ⟨eventOf btn.pendingEvent, taken⟩ (timeline btn ops)).letters
        = taken ++ (returned btn ops ++ (eventOf (buttonRun btn ops).pendingEvent).toList)
  | btn, [], taken => rfl
  | btn, .update env :: ops, taken => by
      have ih := buttonRun_mailbox (buttonUpdate btn env) ops taken
      rw [timeline, mailRun_append]
      rcases update_produced btn env with ⟨hpr, _, hpe⟩ | ⟨ev, hev, hpr, _, hpe⟩
      · rw [hpe] at ih
        rw [hpr]
        exact ih
      · -- whatever was in the slot is gone
        rw [hpe, hev] at ih
        rw [hpr]
        exact ih
  | btn, .getEvent :: ops, taken => by
      have ih := buttonRun_mailbox (buttonGetEvent btn).2 ops
        (taken ++ (eventOf btn.pendingEvent).toList)
      rw [List.append_assoc, ← List.append_assoc (eventOf btn.pendingEvent).toList] at ih
      exact ih
  | btn, .invertLogic :: ops, taken => buttonRun_mailbox (buttonInvertLogic btn) ops taken

/-- The events the program has got from a run, and the one it can still get. -/
def seen (btn : Button) (ops : List ButtonOp) : List ButtonEvent :=
  returned btn ops ++ (eventOf (buttonRun btn ops).pendingEvent).toList

/--
**A button event is lost exactly when the next one comes before it is read.**

Over any run of updates and polls of any button: the events returned, and then the one pending,
are the events produced less those that another event came after with no poll in between. So none
is lost exactly when there is a poll between any two of them.
-/
theorem buttonEvents_survivors (name : Option CStr) (pinId : UInt8)
    (debounceMs holdTimeMs uuid : UInt32) (ops : List ButtonOp) :
    (buttonRun (.created name pinId debounceMs holdTimeMs uuid) ops).stored
        = puts (timeline (.created name pinId debounceMs holdTimeMs uuid) ops)
      ∧ seen (.created name pinId debounceMs holdTimeMs uuid) ops
        = survivors (timeline (.created name pinId debounceMs holdTimeMs uuid) ops)
      ∧ (seen (.created name pinId debounceMs holdTimeMs uuid) ops
          = (buttonRun (.created name pinId debounceMs holdTimeMs uuid) ops).stored
        ↔ (timeline (.created name pinId debounceMs holdTimeMs uuid) ops).IsChain
          fun x y => ¬Collide x y) := by
  obtain ⟨b, hb⟩ : ∃ b, b = Button.created name pinId debounceMs holdTimeMs uuid := ⟨_, rfl⟩
  have hempty : b.stored = [] ∧ eventOf b.pendingEvent = none := by rw [hb]; exact ⟨rfl, rfl⟩
  rw [← hb]
  have hstored := buttonRun_stored b ops
  rw [hempty.1, List.nil_append] at hstored
  have hseen : seen b ops = survivors (timeline b ops) := by
    have hbox := buttonRun_mailbox b ops []
    rw [hempty.2, mailRun_survivors, List.nil_append, List.nil_append] at hbox
    exact hbox.symm
  refine ⟨hstored, hseen, ?_⟩
  rw [hseen, hstored]
  exact survivors_eq_puts_iff _

/-- A short press, polled only afterwards. -/
def pressThenPoll : List ButtonOp :=
  [.update ⟨⟨.ok, some ioPinHigh⟩, 0, 0⟩, .update ⟨⟨.ok, some ioPinHigh⟩, 20, 20⟩,
    .update ⟨⟨.ok, some ioPinLow⟩, 40, 40⟩, .update ⟨⟨.ok, some ioPinLow⟩, 60, 60⟩, .getEvent]

/-- Two events are produced, and the poll returns the second one only. -/
theorem pressThenPoll_loses :
    (buttonRun (.created none 3 20 0 7) pressThenPoll).stored = [.pressed, .released]
      ∧ seen (.created none 3 20 0 7) pressThenPoll = [.released]
      ∧ seen (.created none 3 20 0 7) pressThenPoll
        ≠ (buttonRun (.created none 3 20 0 7) pressThenPoll).stored := by
  decide

end FwCore.Proof
