import FwCore.Proof.CallerFormats
import FwCore.Proof.DeviceHistory

/-!
# What the device library prints

Each message names a device and gives numbers. If the names that devices are created with
are strings, then so are the names in the structs, for nothing else is ever stored there;
every message finds a fitting argument for each of its conversions, and `uprint` comes to
its end with it. The three listings that print numbers with `%u` then say what they are
meant to: a line for each live device, the newest first.
-/

namespace FwCore.Proof

open FwCore Lib

/-! ## Messages that return -/

/-- The message comes with a name and `n` numbers, and needs no more. -/
def NameAnd (n : Nat) (fmt : String) : Prop :=
  WellFormed (literalBytes fmt) ∧ (conversions (literalBytes fmt)).head? = some (ascii 's')
    ∧ (conversions (literalBytes fmt)).length ≤ n + 1
    ∧ ascii 's' ∉ (conversions (literalBytes fmt)).tail

instance (n : Nat) (fmt : String) : Decidable (NameAnd n fmt) := by
  unfold NameAnd
  infer_instance

/-- Numbers fit any conversions but `%s`. -/
theorem numbers_fit {specifiers : List UInt8} (h : ascii 's' ∉ specifiers) :
    ∀ (nums : List UInt32), specifiers.length ≤ nums.length → ∃ used extra,
      nums.map UprintArg.unsigned = used ++ extra ∧ List.Forall₂ ArgFits specifiers used := by
  induction specifiers with
  | nil => exact fun nums _ => ⟨[], nums.map .unsigned, rfl, .nil⟩
  | cons c cs ih =>
      intro nums hlen
      cases nums with
      | nil => exact absurd hlen (by simp)
      | cons v nums =>
          obtain ⟨used, extra, heq, hall⟩ :=
            ih (fun hc => h (List.mem_cons_of_mem _ hc)) nums (Nat.le_of_succ_le_succ hlen)
          refine ⟨.unsigned v :: used, extra, by rw [List.map_cons, heq, List.cons_append],
            .cons ?_ hall⟩
          have hc : c ≠ ascii 's' := fun hc => h (hc ▸ List.mem_cons_self)
          rw [ArgFits, if_neg hc]
          intro hnull
          cases hnull

/-- **A message with a name that is a string returns.** -/
theorem named_returns {n : Nat} {fmt : String} (h : NameAnd n fmt) {name : Option CStr}
    (hname : name ≠ none) (nums : List UInt32) (hlen : nums.length = n) :
    Returns ⟨fmt, .str name :: nums.map .unsigned⟩ := by
  obtain ⟨hwf, hhead, hle, htail⟩ := h
  rw [returns_iff hwf]
  obtain ⟨rest, hconv⟩ : ∃ rest, conversions (literalBytes fmt) = ascii 's' :: rest :=
    ⟨_, List.eq_cons_of_mem_head? hhead⟩
  rw [hconv] at hle htail
  obtain ⟨used, extra, heq, hall⟩ := numbers_fit htail nums (by rw [hlen]; simpa using hle)
  refine ⟨.str name :: used, extra, by rw [heq, List.cons_append], ?_⟩
  rw [hconv]
  refine .cons ?_ hall
  rw [ArgFits, if_pos rfl]
  exact hname

/-- Without arguments. -/
theorem plain_returns {fmt : String} (h : WellFormed (literalBytes fmt))
    (hconv : conversions (literalBytes fmt) = []) : Returns ⟨fmt, []⟩ := by
  rw [returns_iff h]
  exact ⟨[], [], rfl, by rw [hconv]; exact .nil⟩

/-- Every message among the events returns. -/
def AllReturn (events : List DeviceEvent) : Prop := ∀ call, .uprint call ∈ events → Returns call

theorem allReturn_map {calls : List UprintCall} (h : ∀ call ∈ calls, Returns call) :
    AllReturn (calls.map .uprint) := by
  intro call hcall
  obtain ⟨call', hmem, heq⟩ := List.mem_map.mp hcall
  rw [← DeviceEvent.uprint.inj heq]
  exact h call' hmem

theorem allReturn_snoc {early : List DeviceEvent} {call : UprintCall} (he : AllReturn early)
    (h : Returns call) : AllReturn (early ++ [.uprint call]) := by
  intro call' hmem
  rcases List.mem_append.mp hmem with hmem | hmem
  · exact he call' hmem
  · rw [DeviceEvent.uprint.inj (List.mem_singleton.mp hmem)]
    exact h

theorem allReturn_nil : AllReturn [] := by
  intro call hcall
  cases hcall

/-! ## Names -/

/-- Every device has a name. -/
def AllNamed (inv : Inventory) : Prop :=
  ∀ r dev rec, inv.device r dev = some rec → recordName r rec ≠ none

section

variable {t : Target} {d : ButtonTimers t} {inv inv' : Inventory} {fresh fuel : Nat} {op : BspOp}
  {answer : BspAnswer} {r : Registry} {dev : Nat}

/-- The name a call gives is a string. -/
def NameOk (t : Target) (op : BspOp) : Prop := ∀ name ∈ op.name, t.cstr name ≠ none

instance (t : Target) (op : BspOp) : Decidable (NameOk t op) :=
  inferInstanceAs (Decidable (∀ name ∈ op.name, _))

theorem update_name (btn : Button) (env : ButtonEnv) : (buttonUpdate btn env).name = btn.name := by
  unfold buttonUpdate Button.store
  dsimp only
  repeat' split
  all_goals rfl

/-- A call does not rename a device. -/
theorem recordCall_name (rec : r.Record) (op : BspOp) :
    recordName r (recordCall r rec op).1 = recordName r rec := by
  cases r with
  | led => cases op <;> rfl
  | ledRgb => cases op <;> rfl
  | output => cases op <;> rfl
  | button =>
      cases op with
      | buttonUpdate dev env =>
          show (buttonUpdate rec env).name = rec.name
          exact update_name rec env
      | _ => rfl

theorem named_step (h : AllNamed inv) (hop : NameOk t op)
    (hs : Inventory.Step t inv op answer inv') : AllNamed inv' := by
  intro r dev rec' hrec'
  rcases step_device hs hrec' with ⟨hcr, _⟩ | ⟨rec, hrec, rfl | rfl⟩
  · cases hcr <;> exact hop _ rfl
  · exact h r dev _ hrec
  · rw [recordCall_name]
    exact h r dev rec hrec

/-! ## The messages of a call -/

theorem say_returns {ret : BspRet} {calls : List UprintCall} (h : ∀ call ∈ calls, Returns call) :
    AllReturn (inv.say ret calls).2.events := allReturn_map h

theorem on_returns (hinv : AllNamed inv) {null : BspRet} {f : r.Record → Inventory × BspAnswer}
    (hf : ∀ rec, recordName r rec ≠ none → AllReturn (f rec).2.events) :
    AllReturn (inv.on r dev null f).2.events := by
  rw [Inventory.on]
  cases hrec : inv.device r dev with
  | none => exact allReturn_nil
  | some rec => exact hf rec (hinv r dev rec hrec)

theorem each_returns (hinv : AllNamed inv) {f : r.Record → UprintCall}
    (hf : ∀ rec, recordName r rec ≠ none → Returns (f rec)) :
    ∀ call ∈ inv.each r f, Returns call := by
  intro call hcall
  obtain ⟨dev, _, hdev⟩ := List.mem_filterMap.mp hcall
  obtain ⟨rec, hrec, rfl⟩ := Option.map_eq_some_iff.mp hdev
  exact hf rec (hinv r dev rec hrec)

theorem lowMemory_returns : Returns ledLowMemory := plain_returns (by decide) (by decide)

theorem outputLowMemory_returns : Returns outputLowMemory := plain_returns (by decide) (by decide)

theorem outputRule_returns : Returns outputRule := plain_returns (by decide) (by decide)

theorem create_returns {mk : Nat → r.Record} {early : r.Record → List DeviceEvent}
    {report : r.Record → UprintCall} {lowMemory : UprintCall} (hlow : Returns lowMemory)
    (hearly : ∀ rec, AllReturn (early rec)) (h : ∀ uuid, Returns (report (mk uuid))) :
    AllReturn (inv.create fresh r mk early report lowMemory).2.events := by
  rw [Inventory.create]
  split
  · exact say_returns (by simpa using hlow)
  · exact allReturn_snoc (hearly _) (h _)

theorem createWithUuid_returns {rec : r.Record} {early : r.Record → List DeviceEvent}
    {report : r.Record → UprintCall} {lowMemory duplicate : UprintCall} (hlow : Returns lowMemory)
    (hdup : Returns duplicate) (hearly : AllReturn (early rec)) (h : Returns (report rec)) :
    AllReturn (inv.createWithUuid fresh r rec early report lowMemory duplicate).2.events := by
  rw [Inventory.createWithUuid]
  split
  · exact say_returns (by simpa using hdup)
  · split
    · exact say_returns (by simpa using hlow)
    · exact allReturn_snoc hearly h

theorem destroy_returns (hinv : AllNamed inv) {early : r.Record → List DeviceEvent}
    (hearly : ∀ rec, AllReturn (early rec)) :
    AllReturn (inv.destroy r dev early).2.events :=
  on_returns hinv fun rec hname =>
    allReturn_snoc (hearly rec) (named_returns (n := 0) (by decide) hname [] rfl)

/-- What is asked of the hardware is no message. -/
theorem pwmInit_returns (id : UInt8) : AllReturn [.pwmInit id] := by
  intro call hcall
  cases List.mem_singleton.mp hcall

theorem pwmStop_returns (id : UInt8) : AllReturn [.pwmSetDuty id 0, .pwmDeinit id] := by
  intro call hcall
  rcases List.mem_cons.mp hcall with h | h
  · cases h
  · cases List.mem_singleton.mp h

theorem device_returns (hinv : AllNamed inv) (dop : DeviceOp) (hop : NameOk t (.device dop)) :
    AllReturn (inv.deviceCall t fresh dop).2.events := by
  cases dop with
  | ledCreate name pinId =>
      rw [Inventory.deviceCall]
      exact create_returns lowMemory_returns (fun _ => allReturn_nil) fun uuid =>
        named_returns (n := 1) (by decide) (hop name rfl) [UInt32.ofNat uuid] rfl
  | ledCreateWithUuid name pinId uuid =>
      rw [Inventory.deviceCall]
      exact createWithUuid_returns lowMemory_returns
        (named_returns (n := 1) (by decide) (hop name rfl) [uuid] rfl) allReturn_nil
        (named_returns (n := 1) (by decide) (hop name rfl) [uuid] rfl)
  | ledRgbCreate name pinR pinG pinB =>
      rw [Inventory.deviceCall]
      exact create_returns lowMemory_returns (fun _ => allReturn_nil) fun uuid =>
        named_returns (n := 1) (by decide) (hop name rfl) [(UInt8.ofNat uuid).toUInt32] rfl
  | ledRgbCreateWithUuid name pinR pinG pinB uuid =>
      rw [Inventory.deviceCall]
      exact createWithUuid_returns lowMemory_returns
        (named_returns (n := 1) (by decide) (hop name rfl) [uuid.toUInt32] rfl)
        allReturn_nil
        (named_returns (n := 1) (by decide) (hop name rfl) [uuid.toUInt32] rfl)
  | outputCreate name pwmId =>
      rw [Inventory.deviceCall]
      exact create_returns outputLowMemory_returns (fun _ => pwmInit_returns _) fun _ =>
        named_returns (n := 0) (by decide) (hop name rfl) [] rfl
  | outputCreateWithUuid name pwmId uuid =>
      rw [Inventory.deviceCall]
      exact createWithUuid_returns outputLowMemory_returns
        (named_returns (n := 1) (by decide) (hop name rfl) [uuid] rfl) (pwmInit_returns _)
        (named_returns (n := 1) (by decide) (hop name rfl) [uuid] rfl)
  | buttonCreate name pinId debounceMs holdTimeMs =>
      rw [Inventory.deviceCall]
      exact create_returns lowMemory_returns (fun _ => allReturn_nil) fun _ =>
        named_returns (n := 0) (by decide) (hop name rfl) [] rfl
  | buttonCreateWithUuid name pinId debounceMs holdTimeMs uuid =>
      -- no conversion takes the uuid
      rw [Inventory.deviceCall]
      exact createWithUuid_returns lowMemory_returns
        (named_returns (n := 1) (by decide) (hop name rfl) [uuid] rfl) allReturn_nil
        (named_returns (n := 1) (by decide) (hop name rfl) [uuid] rfl)
  | ledDestroy led | ledRgbDestroy led | buttonDestroy btn =>
      exact destroy_returns hinv fun _ => allReturn_nil
  | outputDestroy out => exact destroy_returns hinv fun rec => pwmStop_returns rec.pwmId

/-- **Every message of a call returns.** -/
theorem call_returns (hinv : AllNamed inv) (hop : NameOk t op) :
    AllReturn (inv.call t fresh op).2.events := by
  cases op with
  | device dop => exact device_returns hinv dop hop
  | ledDisplayInfo led =>
      refine on_returns hinv fun rec hname => say_returns ?_
      rw [List.forall_mem_singleton]
      exact named_returns (n := 2) (by decide) hname [rec.uuid, rec.pinId.toUInt32] rfl
  | ledRgbDisplayInfo led =>
      refine on_returns hinv fun rec hname => say_returns ?_
      rw [List.forall_mem_singleton]
      exact named_returns (n := 4) (by decide) hname
        [rec.uuid.toUInt32, rec.led.pinR.toUInt32,
        rec.led.pinG.toUInt32, rec.led.pinB.toUInt32] rfl
  | outputDisplayInfo out =>
      refine on_returns hinv fun rec hname => say_returns ?_
      rw [List.forall_mem_singleton]
      exact named_returns (n := 2) (by decide) hname [rec.uuid, rec.duty.toUInt32] rfl
  | buttonDisplayInfo btn =>
      refine on_returns hinv fun rec hname => say_returns ?_
      rw [List.forall_mem_singleton]
      exact named_returns (n := 2) (by decide) hname [rec.uuid, rec.pinId.toUInt32] rfl
  | ledDisplayAll =>
      exact say_returns (each_returns hinv fun rec hname =>
        named_returns (n := 2) (by decide) hname [rec.uuid, rec.pinId.toUInt32] rfl)
  | ledRgbDisplayAll =>
      exact say_returns (each_returns hinv fun rec hname =>
        named_returns (n := 1) (by decide) hname [rec.uuid.toUInt32] rfl)
  | buttonDisplayAll =>
      exact say_returns (each_returns hinv fun rec hname =>
        named_returns (n := 1) (by decide) hname [rec.uuid] rfl)
  | outputDisplayAll =>
      have hlines := each_returns (r := .output) (f := fun rec => ⟨"  [%s] UUID=%u duty=%u%%\r\n",
        [.str rec.name, .unsigned rec.uuid, .unsigned rec.duty.toUInt32]⟩) hinv fun rec hname =>
          named_returns (n := 2) (by decide) hname [rec.uuid, rec.duty.toUInt32] rfl
      refine say_returns fun call hcall => ?_
      rcases List.mem_append.mp hcall with hcall | hcall
      · rcases List.mem_append.mp hcall with hcall | hcall
        · rw [List.mem_singleton.mp hcall]
          exact outputRule_returns
        · exact hlines call hcall
      · rw [List.mem_singleton.mp hcall]
        exact outputRule_returns
  | ledGetByUuid | ledRgbGetByUuid | outputGetByUuid | buttonGetByUuid => exact allReturn_nil
  | outputSet | outputOn | outputOff =>
      refine on_returns hinv fun rec _ call hcall => ?_
      cases List.mem_singleton.mp hcall
  | _ => exact on_returns hinv fun _ _ => allReturn_nil

/-! ## Runs -/

theorem named_empty (pins : Pins) : AllNamed (.empty pins) := by
  intro r dev rec hrec
  cases hrec

/-- Over a run whose names are strings, every message returns and every device stays named. -/
theorem traces_return {inv inv' : Inventory} {ops : List BspOp} {answers : List BspAnswer}
    (h : Traces (Inventory.Step t) inv ops answers inv') (hinv : AllNamed inv)
    (hops : ∀ op ∈ ops, NameOk t op) :
    (∀ answer ∈ answers, AllReturn answer.events) ∧ AllNamed inv' := by
  induction h with
  | nil a => exact ⟨fun _ ha => absurd ha List.not_mem_nil, hinv⟩
  | @cons a b c op ops answer answers hstep _ ih =>
      have hop := hops op List.mem_cons_self
      obtain ⟨htail, hend⟩ := ih (named_step hinv hop hstep)
        fun op' hop' => hops op' (List.mem_cons_of_mem op hop')
      refine ⟨fun x hx => ?_, hend⟩
      rcases List.mem_cons.mp hx with rfl | hx
      · obtain ⟨fresh, _, _, hcall⟩ := hstep
        have hret : AllReturn (a.call t fresh op).2.events := call_returns hinv hop
        rwa [hcall] at hret
      · exact htail x hx

/-! ## The listings -/

/-- A line about an LED. -/
def ledText (name : CStr) (uuid pinId : Nat) : List UInt8 :=
  literalBytes "  " ++ nameText name ++ literalBytes " (UUID: " ++ decimalText uuid
    ++ literalBytes ", pin_id: " ++ decimalText pinId ++ literalBytes ")\r\n"

/-- A line about an output. -/
def outputText (name : CStr) (uuid duty : Nat) : List UInt8 :=
  literalBytes "  [" ++ nameText name ++ literalBytes "] UUID=" ++ decimalText uuid
    ++ literalBytes " duty=" ++ decimalText duty ++ literalBytes "%\r\n"

/-- The line above and below the outputs. -/
def ruleText : List UInt8 :=
  literalBytes "************************************************************\r\n"

theorem led_prints (name : CStr) (uuid pinId : UInt32) :
    Prints ⟨"  %s (UUID: %u, pin_id: %u)\r\n", [.str (some name), .unsigned uuid, .unsigned pinId]⟩
      (ledText name uuid.toNat pinId.toNat) := by
  have hfmt : MadeOf "  %s (UUID: %u, pin_id: %u)\r\n" (nameParts "  " " (UUID: "
      (.convert .unsigned
        :: (literals ", pin_id: " ++ .convert .unsigned :: literals ")\r\n"))) := by
    decide
  have htail : rendered (.convert .unsigned :: (literals ", pin_id: "
      ++ .convert .unsigned :: literals ")\r\n")) [.unsigned uuid, .unsigned pinId]
      = some (decimalText uuid.toNat ++ (literalBytes ", pin_id: "
        ++ (decimalText pinId.toNat ++ literalBytes ")\r\n")), []) := by
    rw [rendered_unsigned, rendered_literals, rendered_unsigned, rendered_end]
    rfl
  have hprints := prints_name hfmt htail name
  unfold ledText
  simpa only [List.append_assoc] using hprints

theorem rgb_prints (name : CStr) (uuid : UInt32) :
    Prints ⟨"  %s (UUID: %u)\r\n", [.str (some name), .unsigned uuid]⟩
      (lineText name uuid.toNat) := by
  have hfmt : MadeOf "  %s (UUID: %u)\r\n"
      (nameParts "  " " (UUID: " (.convert .unsigned :: literals ")\r\n")) := by decide
  have htail := rendered_unsigned uuid (literals ")\r\n") []
  rw [rendered_end] at htail
  have hprints := prints_name hfmt htail name
  unfold lineText
  simpa only [List.append_assoc] using hprints

theorem output_prints (name : CStr) (uuid duty : UInt32) :
    Prints ⟨"  [%s] UUID=%u duty=%u%%\r\n", [.str (some name), .unsigned uuid, .unsigned duty]⟩
      (outputText name uuid.toNat duty.toNat) := by
  have hfmt : MadeOf "  [%s] UUID=%u duty=%u%%\r\n" (nameParts "  [" "] UUID="
      (.convert .unsigned :: (literals " duty=" ++ .convert .unsigned :: .escape (ascii '%')
        :: literals "\r\n"))) := by
    decide
  have hpercent : rendered (.escape (ascii '%') :: literals "\r\n") []
      = some (literalBytes "%\r\n", []) := by
    rw [rendered, rendered_end]
    rfl
  have htail : rendered (.convert .unsigned :: (literals " duty="
      ++ .convert .unsigned :: .escape (ascii '%') :: literals "\r\n"))
        [.unsigned uuid, .unsigned duty]
      = some (decimalText uuid.toNat ++ (literalBytes " duty="
        ++ (decimalText duty.toNat ++ literalBytes "%\r\n")), []) := by
    rw [rendered_unsigned, rendered_literals, rendered_unsigned, hpercent]
    rfl
  have hprints := prints_name hfmt htail name
  unfold outputText
  simpa only [List.append_assoc] using hprints

theorem rule_prints : Prints outputRule ruleText := by
  have hfmt : MadeOf "************************************************************\r\n"
      (literals "************************************************************\r\n") := by decide
  exact prints_of_parts hfmt.1 hfmt.2 (rendered_end _ _)

/-- The name in a device's struct; a device that has none would print nothing. -/
def nameAt (t : Target) (r : Registry) (m : Mem) (dev : Nat) : CStr :=
  (t.cstr (getField t r m dev .name)).getD []

theorem nameAt_arg {w : BspWorld} (hR : Represents d w inv) (hinv : AllNamed inv) (r : Registry)
    (hdev : dev ∈ w.live r) :
    nameArg t r w.devices.mem dev = .str (some (nameAt t r w.devices.mem dev)) := by
  obtain ⟨rec, hrec, hholds⟩ := hR.device hdev
  have hname := hholds.nameArg
  obtain ⟨str, hstr⟩ := Option.ne_none_iff_exists'.mp (hinv r dev rec hrec)
  rw [hstr, nameArg] at hname
  rw [nameArg, nameAt, UprintArg.str.inj hname]
  rfl

theorem uuidAt_arg {w : BspWorld} (hR : Represents d w inv) (r : Registry) (hdev : dev ∈ w.live r) :
    ∃ uuid : UInt32, uuidArg t r w.devices.mem dev = .unsigned uuid
      ∧ uuid.toNat = uuidOf t r w.devices.mem dev := by
  obtain ⟨rec, _, hholds⟩ := hR.device hdev
  refine ⟨_, hholds.uuidArg, ?_⟩
  rw [hholds.uuid]
  refine Nat.mod_eq_of_lt ?_
  cases r with
  | led => exact rec.uuid.toNat_lt
  | ledRgb => exact Nat.lt_trans rec.uuid.toNat_lt (by decide)
  | output => exact rec.uuid.toNat_lt
  | button => exact rec.uuid.toNat_lt

section

variable {w : BspWorld} (hR : Represents d w inv) (hinv : AllNamed inv) (hf : 64 < fuel)
include hR hinv hf

theorem ledDisplayAll_transmits :
    ∃ calls, ledDisplayAll t w.devices fuel = some calls
      ∧ Transmits calls ((w.live .led).flatMap fun dev =>
        ledText (nameAt t .led w.devices.mem dev) (uuidOf t .led w.devices.mem dev)
          (ledPinId t w.devices dev).toNat) := by
  refine ⟨(w.live .led).map (ledDisplayLine t w.devices), ?_, transmits_map fun dev hdev => ?_⟩
  · rw [ledDisplayAll, forEach_live hR.ok hf .led]
    exact congrArg some (map_containerOf .led _ _)
  · obtain ⟨uuid, huuid, heq⟩ := uuidAt_arg hR .led hdev
    rw [ledDisplayLine, nameAt_arg hR hinv .led hdev, huuid, ← heq]
    exact led_prints _ uuid (ledPinId t w.devices dev).toUInt32

theorem ledRgbDisplayAll_transmits :
    ∃ calls, ledRgbDisplayAll t w.devices fuel = some calls
      ∧ Transmits calls ((w.live .ledRgb).flatMap fun dev =>
        lineText (nameAt t .ledRgb w.devices.mem dev) (uuidOf t .ledRgb w.devices.mem dev)) := by
  refine ⟨(w.live .ledRgb).map (ledRgbDisplayLine t w.devices), ?_,
    transmits_map fun dev hdev => ?_⟩
  · rw [ledRgbDisplayAll, forEach_live hR.ok hf .ledRgb]
    exact congrArg some (map_containerOf .ledRgb _ _)
  · obtain ⟨uuid, huuid, heq⟩ := uuidAt_arg hR .ledRgb hdev
    rw [ledRgbDisplayLine, nameAt_arg hR hinv .ledRgb hdev, huuid, ← heq]
    exact rgb_prints _ uuid

theorem outputDisplayAll_transmits :
    ∃ calls, outputDisplayAll t w.devices fuel = some calls
      ∧ Transmits calls (ruleText ++ ((w.live .output).flatMap fun dev =>
        outputText (nameAt t .output w.devices.mem dev) (uuidOf t .output w.devices.mem dev)
          (outputDuty t w.devices dev).toNat) ++ ruleText) := by
  refine ⟨[outputRule] ++ (w.live .output).map (outputDisplayLine t w.devices) ++ [outputRule], ?_,
    ((transmits_single rule_prints).append (transmits_map fun dev hdev => ?_)).append
      (transmits_single rule_prints)⟩
  · rw [outputDisplayAll, forEach_live hR.ok hf .output]
    show some _ = some _
    rw [map_containerOf]
  · obtain ⟨uuid, huuid, heq⟩ := uuidAt_arg hR .output hdev
    rw [outputDisplayLine, outputArgs, nameAt_arg hR hinv .output hdev, huuid, ← heq]
    exact output_prints _ uuid (outputDuty t w.devices dev).toUInt32

end

/--
**Every message of the device library can be printed.**

Over any permitted program that creates its devices with names that are strings, however it
goes on: every message any of its calls makes finds, for each conversion in its format, an
argument that fits, so `uprint` comes to its end with it.
-/
theorem messages_return (d : ButtonTimers t) (m : Mem) (pins : Pins) (hf : 64 < fuel)
    (ops : List BspOp) (hnames : ∀ op ∈ ops, NameOk t op)
    (hal : AllowedAll (bspCall d fuel) (BspAllowed t) (BspWorld.start t m pins) ops) :
    ∃ w answers, bspRun d fuel (BspWorld.start t m pins) ops = some (w, answers)
      ∧ ∀ answer ∈ answers, ∀ call, .uprint call ∈ answer.events → Returns call := by
  obtain ⟨w, answers, inv, hrun, htrace, _⟩ :=
    (bsp_simulates d hf).run ops (represents_start d m pins) hal
  exact ⟨w, answers, hrun, (traces_return htrace (named_empty pins) hnames).1⟩

/--
**The listings say what there is.**

After any permitted program that creates its devices with names that are strings, the three
listings that print numbers with `%u` send, byte for byte, one line for each live device and
no other, the newest first, with its name up to the NUL and its numbers in decimal as its
struct has them.
-/
theorem listings_exact (d : ButtonTimers t) (m : Mem) (pins : Pins) (hf : 64 < fuel)
    (ops : List BspOp) (hnames : ∀ op ∈ ops, NameOk t op)
    (hal : AllowedAll (bspCall d fuel) (BspAllowed t) (BspWorld.start t m pins) ops) :
    ∃ w answers, bspRun d fuel (BspWorld.start t m pins) ops = some (w, answers)
      ∧ (∃ calls, ledDisplayAll t w.devices fuel = some calls
        ∧ Transmits calls ((w.live .led).flatMap fun dev =>
          ledText (nameAt t .led w.devices.mem dev) (uuidOf t .led w.devices.mem dev)
            (ledPinId t w.devices dev).toNat))
      ∧ (∃ calls, ledRgbDisplayAll t w.devices fuel = some calls
        ∧ Transmits calls ((w.live .ledRgb).flatMap fun dev =>
          lineText (nameAt t .ledRgb w.devices.mem dev) (uuidOf t .ledRgb w.devices.mem dev)))
      ∧ ∃ calls, outputDisplayAll t w.devices fuel = some calls
        ∧ Transmits calls (ruleText ++ ((w.live .output).flatMap fun dev =>
          outputText (nameAt t .output w.devices.mem dev) (uuidOf t .output w.devices.mem dev)
            (outputDuty t w.devices dev).toNat) ++ ruleText) := by
  obtain ⟨w, answers, inv, hrun, htrace, hR⟩ :=
    (bsp_simulates d hf).run ops (represents_start d m pins) hal
  obtain ⟨_, hnamed⟩ := traces_return htrace (named_empty pins) hnames
  exact ⟨w, answers, hrun, ledDisplayAll_transmits hR hnamed hf,
    ledRgbDisplayAll_transmits hR hnamed hf, outputDisplayAll_transmits hR hnamed hf⟩

end

/-- The timers of a button on a target that has a name. -/
def arm32TTimers : ButtonTimers arm32T where
  timer := arm32Timer
  offset := arm32Timers.offset
  inside := arm32Timers.inside
  apart := arm32Timers.apart
  apart_field := arm32Timers.apart_field
  enum_pos := arm32Timers.enum_pos

/-- Three devices, one of them destroyed, and what there is. -/
def inventoryCalls : List BspOp :=
  [.device (.ledCreate 8 13), .device (.outputCreateWithUuid 8 3 7),
    .device (.ledRgbCreate 8 1 2 3),
    .outputSet 0x200007C0 40, .device (.ledDestroy 0x200007E0), .outputDisplayAll]

theorem inventoryCalls_names : ∀ op ∈ inventoryCalls, NameOk arm32T op := by
  decide

theorem inventoryCalls_allowed : AllowedAll (bspCall arm32TTimers 65) (BspAllowed arm32T)
    (BspWorld.start arm32T (fun _ => 0xAB) (fun _ => 0)) inventoryCalls := by
  decide +kernel

theorem messages_return_three :
    ∃ w answers, bspRun arm32TTimers 65 (BspWorld.start arm32T (fun _ => 0xAB) (fun _ => 0))
        inventoryCalls = some (w, answers)
      ∧ ∀ answer ∈ answers, ∀ call, .uprint call ∈ answer.events → Returns call :=
  messages_return arm32TTimers (fun _ => 0xAB) (fun _ => 0) (by decide) inventoryCalls
    inventoryCalls_names inventoryCalls_allowed

theorem listings_exact_three :
    ∃ w answers, bspRun arm32TTimers 65 (BspWorld.start arm32T (fun _ => 0xAB) (fun _ => 0))
        inventoryCalls = some (w, answers)
      ∧ ∃ calls, outputDisplayAll arm32T w.devices 65 = some calls
        ∧ Transmits calls (ruleText ++ ((w.live .output).flatMap fun dev =>
          outputText (nameAt arm32T .output w.devices.mem dev)
            (uuidOf arm32T .output w.devices.mem dev) (outputDuty arm32T w.devices dev).toNat)
          ++ ruleText) := by
  obtain ⟨w, answers, hrun, _, _, hout⟩ := listings_exact arm32TTimers (fun _ => 0xAB)
    (fun _ => 0) (by decide) inventoryCalls inventoryCalls_names inventoryCalls_allowed
  exact ⟨w, answers, hrun, hout⟩

end FwCore.Proof
