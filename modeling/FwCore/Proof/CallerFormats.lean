import FwCore.Bsp.Button
import FwCore.Proof.DeviceRegistries
import FwCore.Proof.UprintCalls

/-!
# What the callers' formats come to

The messages about LEDs and buttons name a device, its uuid and its pin. `printf` knows
`%lu`, and some of the formats use it. `uprint` does not: it takes the `l` for a character
to be sent, sends the `u` behind it as well, and the uuid that was passed is there for the
next conversion, if there is one.

So a message says what it is meant to say exactly if it does without `%lu`. What it is
meant to say is written out here in plain bytes, with the numbers in decimal.
-/

namespace FwCore.Proof

open FwCore Lib

/-! ## What the messages are meant to say -/

/-- A name, up to its NUL. -/
def nameText (name : CStr) : List UInt8 := name.takeWhile (· ≠ 0)

/-- A number in decimal. -/
def decimalText (n : Nat) : List UInt8 := numeralText 10 n

/-- A device has been created. -/
def createdText (name : CStr) (uuid : Nat) : List UInt8 :=
  literalBytes "*** " ++ nameText name ++ literalBytes " created with UUID " ++ decimalText uuid
    ++ literalBytes " ***\r\n"

/-- There is a device with the uuid already. -/
def takenText (name : CStr) (uuid : Nat) : List UInt8 :=
  literalBytes "Failed to create " ++ nameText name ++ literalBytes ": UUID " ++ decimalText uuid
    ++ literalBytes " already exists\r\n"

/-- There is no block for it. -/
def lowMemoryText : List UInt8 := literalBytes "Low memory, cannot create device\r\n"

/-- What a creation with a given uuid is meant to report. -/
def creationText (taken full : Bool) (name : CStr) (uuid : Nat) : List UInt8 :=
  if taken then takenText name uuid else if full then lowMemoryText else createdText name uuid

/-- What `button_displayInfo` is meant to say. -/
def infoText (name : CStr) (uuid pinId : Nat) : List UInt8 :=
  literalBytes "Device: " ++ nameText name ++ literalBytes " | UUID: " ++ decimalText uuid
    ++ literalBytes " | pin_id: " ++ decimalText pinId ++ literalBytes "\r\n"

/-- What a line of `button_displayAll` is meant to say. -/
def lineText (name : CStr) (uuid : Nat) : List UInt8 :=
  literalBytes "  " ++ nameText name ++ literalBytes " (UUID: " ++ decimalText uuid
    ++ literalBytes ")\r\n"

/-! ## What they say -/

/-- What `uprint` makes of `%lu`. -/
def longParts : List FormatPart := [.escape (ascii 'l'), .literal (ascii 'u')]

/-- A format that begins with a name. -/
def nameParts (before after : String) (ps : List FormatPart) : List FormatPart :=
  literals before ++ .convert .string :: (literals after ++ ps)

/-- It is made of these parts, and each is what it says. -/
def MadeOf (fmt : String) (ps : List FormatPart) : Prop :=
  literalBytes fmt = formatOf ps ∧ ∀ p ∈ ps, p.Ok

instance (fmt : String) (ps : List FormatPart) : Decidable (MadeOf fmt ps) := by
  unfold MadeOf
  infer_instance

theorem rendered_unsigned (v : UInt32) (ps : List FormatPart) (args : List UprintArg) :
    rendered (.convert .unsigned :: ps) (.unsigned v :: args)
      = (rendered ps args).map fun r => (decimalText v.toNat ++ r.1, r.2) := rfl

theorem rendered_end (s : String) (args : List UprintArg) :
    rendered (literals s) args = some (literalBytes s, args) := by
  have h := rendered_literals s [] args
  rw [List.append_nil] at h
  rw [h]
  show some (literalBytes s ++ [], args) = _
  rw [List.append_nil]

/-- `%lu` is two characters, and the argument is left for what follows. -/
theorem rendered_long (ps : List FormatPart) (args : List UprintArg) :
    rendered (longParts ++ ps) args
      = (rendered ps args).map fun r => (ascii 'l' :: ascii 'u' :: r.1, r.2) := by
  show ((rendered ps args).map _).map _ = _
  rw [Option.map_map]
  rfl

/-- A message that begins with a name. -/
theorem prints_name {fmt before after : String} {ps : List FormatPart} {args left : List UprintArg}
    {out : List UInt8} (hfmt : MadeOf fmt (nameParts before after ps))
    (hout : rendered ps args = some (out, left)) (name : CStr) :
    Prints ⟨fmt, .str (some name) :: args⟩
      (literalBytes before ++ nameText name ++ literalBytes after ++ out) := by
  have hall : rendered (nameParts before after ps) (.str (some name) :: args)
      = some (literalBytes before ++ nameText name ++ literalBytes after ++ out, left) := by
    rw [nameParts, rendered_literals, rendered, rendered_literals, hout, List.append_assoc,
      List.append_assoc]
    rfl
  exact prints_of_parts hfmt.1 hfmt.2 hall

/-- **A message with `%lu` for its number says something else.** -/
theorem long_not_prints {fmt before after : String} {ps : List FormatPart}
    {args left : List UprintArg} {out : List UInt8}
    (hfmt : MadeOf fmt (nameParts before after (longParts ++ ps)))
    (hout : rendered ps args = some (out, left)) (name : CStr) (n : Nat) (rest : List UInt8) :
    ¬Prints ⟨fmt, .str (some name) :: args⟩
      (literalBytes before ++ nameText name ++ literalBytes after ++ (decimalText n ++ rest)) := by
  intro hmeant
  have htail : rendered (longParts ++ ps) args = some (ascii 'l' :: ascii 'u' :: out, left) := by
    rw [rendered_long, hout]
    rfl
  have heq := (prints_name hfmt htail name).unique hmeant
  exact l_ne_numeral n _ _ (List.append_cancel_left heq)

/-! ## The messages, one by one -/

/-- `led_createWithUuid` and `button_createWithUuid`, on success. -/
theorem created_not_prints (name : CStr) (uuid : UInt32) :
    ¬Prints ⟨"*** %s created with UUID %lu ***\r\n", [.str (some name), .unsigned uuid]⟩
      (createdText name uuid.toNat) := by
  have hfmt : MadeOf "*** %s created with UUID %lu ***\r\n"
      (nameParts "*** " " created with UUID " (longParts ++ literals " ***\r\n")) := by decide
  unfold createdText
  rw [List.append_assoc _ (decimalText uuid.toNat)]
  exact long_not_prints hfmt (rendered_end _ _) name _ _

/-- `led_createWithUuid`, when the uuid is taken. -/
theorem taken_prints (name : CStr) (uuid : UInt32) :
    Prints ⟨"Failed to create %s: UUID %u already exists\r\n", [.str (some name), .unsigned uuid]⟩
      (takenText name uuid.toNat) := by
  have hfmt : MadeOf "Failed to create %s: UUID %u already exists\r\n"
      (nameParts "Failed to create " ": UUID "
        (.convert .unsigned :: literals " already exists\r\n")) := by decide
  have htail := rendered_unsigned uuid (literals " already exists\r\n") []
  rw [rendered_end] at htail
  unfold takenText
  rw [List.append_assoc _ (decimalText uuid.toNat)]
  exact prints_name hfmt htail name

/-- `button_createWithUuid`, when the uuid is taken. -/
theorem taken_not_prints (name : CStr) (uuid : UInt32) :
    ¬Prints ⟨"Failed to create %s: UUID %lu already exists\r\n",
        [.str (some name), .unsigned uuid]⟩ (takenText name uuid.toNat) := by
  have hfmt : MadeOf "Failed to create %s: UUID %lu already exists\r\n"
      (nameParts "Failed to create " ": UUID "
        (longParts ++ literals " already exists\r\n")) := by decide
  unfold takenText
  rw [List.append_assoc _ (decimalText uuid.toNat)]
  exact long_not_prints hfmt (rendered_end _ _) name _ _

/-- Both, when there is no block. -/
theorem lowMemory_prints : Prints ⟨"Low memory, cannot create device\r\n", []⟩ lowMemoryText := by
  have hfmt : MadeOf "Low memory, cannot create device\r\n"
      (literals "Low memory, cannot create device\r\n") := by decide
  exact prints_of_parts hfmt.1 hfmt.2 (rendered_end _ _)

theorem info_madeOf : MadeOf "Device: %s | UUID: %lu | pin_id: %u\r\n"
    (nameParts "Device: " " | UUID: "
      (longParts ++ (literals " | pin_id: " ++ .convert .unsigned :: literals "\r\n"))) := by
  decide

/-- `button_displayInfo`: here the uuid is printed where the pin should be. -/
theorem info_not_prints (name : CStr) (uuid pinId : UInt32) :
    ¬Prints ⟨"Device: %s | UUID: %lu | pin_id: %u\r\n",
        [.str (some name), .unsigned uuid, .unsigned pinId]⟩
      (infoText name uuid.toNat pinId.toNat) := by
  have htail : rendered (literals " | pin_id: " ++ .convert .unsigned :: literals "\r\n")
      [.unsigned uuid, .unsigned pinId]
      = some (literalBytes " | pin_id: " ++ (decimalText uuid.toNat ++ literalBytes "\r\n"),
        [.unsigned pinId]) := by
    rw [rendered_literals, rendered_unsigned, rendered_end]
    rfl
  unfold infoText
  rw [List.append_assoc _ (decimalText pinId.toNat), List.append_assoc _ (literalBytes " | pin_id: "),
    List.append_assoc _ (decimalText uuid.toNat)]
  exact long_not_prints info_madeOf htail name _ _

/-- A line of `button_displayAll`. -/
theorem line_not_prints (name : CStr) (uuid : UInt32) (n : Nat) :
    ¬Prints ⟨"  %s (UUID: %lu)\r\n", [.str (some name), .unsigned uuid]⟩ (lineText name n) := by
  have hfmt : MadeOf "  %s (UUID: %lu)\r\n"
      (nameParts "  " " (UUID: " (longParts ++ literals ")\r\n")) := by decide
  unfold lineText
  rw [List.append_assoc _ (decimalText n)]
  exact long_not_prints hfmt (rendered_end _ _) name _ _

/-! ## The devices they are about -/

section

variable {t : Target} {s : Devices} {live : Registry → List Nat} {r : Registry} {fuel : Nat}

/-- Linking a device leaves its other fields. -/
theorem getField_pushFront (s : Devices) (dev : Nat) {f : Field} (hf : f ∈ r.fields)
    (hne : f ≠ .node) :
    getField t r (s.pushFront t r dev).mem dev f = getField t r s.mem dev f :=
  getField_setField_other s.mem dev (s.list r).first (node_mem r) hf hne

/-- **The one message of a creation with a given uuid.** -/
theorem deviceCreateWithUuid_message (h : DevicesOk t s none live) (hf : 64 < fuel) {uuid name : Nat}
    (hu : uuid < 256 ^ r.uuidBytes) (hn : name < 256 ^ t.ptrSize) {fields : List (Field × Nat)}
    (hfields : ∀ fv ∈ fields, fv.1 ∈ r.fields) (hnd : (fields.map Prod.fst).Nodup)
    (hmu : (Field.uuid, uuid) ∈ fields) (hmn : (Field.name, name) ∈ fields)
    (report : Mem → Nat → UprintCall) (lowMemory duplicate : UprintCall) :
    ∃ res call, deviceCreateWithUuid t r fuel s uuid fields [] report lowMemory duplicate = some res
      ∧ res.events = [.uprint call]
      ∧ ((uuid ∈ uuidsOf t r s.mem (live r) ∧ call = duplicate)
        ∨ (uuid ∉ uuidsOf t r s.mem (live r) ∧ Exhausted live r ∧ call = lowMemory)
        ∨ (uuid ∉ uuidsOf t r s.mem (live r) ∧ ¬Exhausted live r
          ∧ ∃ m dev, call = report m dev ∧ getField t r m dev .name = name
            ∧ getField t r m dev .uuid = uuid)) := by
  have hfuel : (live r).length < fuel := Nat.lt_of_le_of_lt (live_few h r).1 hf
  rw [deviceCreateWithUuid, uuidExists_spec h hfuel]
  by_cases htaken : uuid ∈ uuidsOf t r s.mem (live r)
  · rw [decide_eq_true htaken]
    exact ⟨_, duplicate, rfl, rfl, Or.inl ⟨htaken, rfl⟩⟩
  · rw [decide_eq_false htaken]
    rcases allocate_spec h r.pool with ⟨heq, hfull⟩ | ⟨dev, s₁, heq, hne, hroom, _, _⟩
    · rw [heq]
      exact ⟨_, lowMemory, rfl, rfl, Or.inr (Or.inl ⟨htaken, hfull, rfl⟩)⟩
    · rw [heq]
      refine ⟨_, _, if_neg hne, rfl, Or.inr (Or.inr ⟨htaken, fun hfull => ?_, _, dev, rfl, ?_, ?_⟩)⟩
      · rw [Exhausted] at hfull
        omega
      · rw [getField_pushFront _ dev (name_mem r) (by decide)]
        exact getField_setFields (name_mem r) hn fields s₁.mem dev hfields hnd hmn
      · rw [getField_pushFront _ dev (uuid_mem r) (by decide)]
        exact getField_setFields (uuid_mem r) hu fields s₁.mem dev hfields hnd hmu

/-- The call's one message says what it is meant to say. -/
def InStep (res : Option DeviceResult) (text : List UInt8) : Prop :=
  ∃ r call, res = some r ∧ r.events = [.uprint call] ∧ Prints call text

theorem inStep_iff {res : DeviceResult} {call : UprintCall} (h : res.events = [.uprint call])
    (text : List UInt8) : InStep (some res) text ↔ Prints call text := by
  constructor
  · intro ⟨res', call', heq, hev, hprints⟩
    obtain rfl := Option.some.inj heq
    rw [h] at hev
    obtain rfl : call = call' := DeviceEvent.uprint.inj (List.cons.inj hev).1
    exact hprints
  · exact fun hprints => ⟨res, call, rfl, h, hprints⟩

instance (live : Registry → List Nat) (r : Registry) : Decidable (Exhausted live r) :=
  inferInstanceAs (Decidable (_ = _))

/-- A uuid that a live device of the kind has. -/
def Taken (t : Target) (w : DeviceWorld) (r : Registry) (uuid : UInt32) : Prop :=
  uuid.toNat ∈ uuidsOf t r w.devices.mem (w.live r)

instance (t : Target) (w : DeviceWorld) (r : Registry) (uuid : UInt32) :
    Decidable (Taken t w r uuid) := inferInstanceAs (Decidable (_ ∈ _))

/-- What a creation is meant to report in a world. -/
def creationReport (t : Target) (w : DeviceWorld) (r : Registry) (name : CStr) (uuid : UInt32) :
    List UInt8 :=
  creationText (decide (Taken t w r uuid)) (decide (Exhausted w.live r)) name uuid.toNat

/-- The arguments of a report that are read back from a device. -/
theorem report_args {m : Mem} {dev name : Nat} {str : CStr} {uuid : UInt32}
    (hname : getField t r m dev .name = name) (huuid : getField t r m dev .uuid = uuid.toNat)
    (hstr : t.cstr name = some str) :
    [nameArg t r m dev, uuidArg t r m dev] = [.str (some str), .unsigned uuid] := by
  rw [nameArg, uuidArg, hname, huuid, hstr, UInt32.ofNat_toNat]

section

variable {w : DeviceWorld} (h : DevicesOk t w.devices none w.live) (hf : 64 < fuel) {name : Nat}
  {str : CStr} (hn : name < 256 ^ t.ptrSize) (hstr : t.cstr name = some str) {uuid : UInt32}
  (hu : uuid.toNat < 256 ^ r.uuidBytes) (fields : List (Field × Nat))
  (hfields : ∀ fv ∈ fields, fv.1 ∈ r.fields) (hnd : (fields.map Prod.fst).Nodup)
  (hmu : (Field.uuid, uuid.toNat) ∈ fields) (hmn : (Field.name, name) ∈ fields)
include h hf hn hstr hu hfields hnd hmu hmn

/-- Of the three messages only the one about a taken uuid, `duplicate`, is not the same for all. -/
theorem deviceCreateWithUuid_inStep {duplicate : String} {P : Prop}
    (hduplicate : Prints ⟨duplicate, [.str (some str), .unsigned uuid]⟩ (takenText str uuid.toNat)
      ↔ P) :
    InStep (deviceCreateWithUuid t r fuel w.devices uuid.toNat fields []
        (fun m dev => ⟨"*** %s created with UUID %lu ***\r\n", [nameArg t r m dev, uuidArg t r m dev]⟩)
        ⟨"Low memory, cannot create device\r\n", []⟩
        ⟨duplicate, [.str (t.cstr name), .unsigned uuid]⟩) (creationReport t w r str uuid)
      ↔ (Taken t w r uuid ∧ P) ∨ (¬Taken t w r uuid ∧ Exhausted w.live r) := by
  obtain ⟨res, call, hcall, hev, hcases⟩ := deviceCreateWithUuid_message h hf hu hn hfields hnd hmu
    hmn (fun m dev => ⟨"*** %s created with UUID %lu ***\r\n",
      [nameArg t r m dev, uuidArg t r m dev]⟩) ⟨"Low memory, cannot create device\r\n", []⟩
    ⟨duplicate, [.str (t.cstr name), .unsigned uuid]⟩
  rw [hcall, inStep_iff hev, creationReport, creationText]
  rcases hcases with ⟨htaken, rfl⟩ | ⟨hfree, hfull, rfl⟩ | ⟨hfree, hroom, m, dev, rfl, hname, huuid⟩
  · have htaken : Taken t w r uuid := htaken
    rw [decide_eq_true htaken, if_pos rfl, hstr, hduplicate]
    exact ⟨fun hp => Or.inl ⟨htaken, hp⟩, fun hor => hor.elim (fun hp => hp.2)
      (fun hp => absurd htaken hp.1)⟩
  · have hfree : ¬Taken t w r uuid := hfree
    rw [decide_eq_false hfree, decide_eq_true hfull, if_neg (by simp), if_pos rfl]
    exact iff_of_true lowMemory_prints (Or.inr ⟨hfree, hfull⟩)
  · have hfree : ¬Taken t w r uuid := hfree
    rw [decide_eq_false hfree, decide_eq_false hroom, if_neg (by simp), if_neg (by simp),
      report_args hname huuid hstr]
    refine iff_of_false (created_not_prints str uuid) fun hor => ?_
    rcases hor with hp | hp
    · exact hfree hp.1
    · exact hroom hp.2

end

section

variable {w : DeviceWorld} (h : DevicesOk t w.devices none w.live) (hf : 64 < fuel) {name : Nat}
  {str : CStr} (hn : name < 256 ^ t.ptrSize) (hstr : t.cstr name = some str) (pinId : UInt8)
  (uuid : UInt32)
include h hf hn hstr

/-- The message about a taken uuid is right, and the one about a new LED is not. -/
theorem ledCreateWithUuid_inStep :
    InStep (ledCreateWithUuid t fuel w.devices name pinId uuid) (creationReport t w .led str uuid)
      ↔ Taken t w .led uuid ∨ Exhausted w.live .led := by
  have hmessages := deviceCreateWithUuid_inStep (r := .led) h hf hn hstr (uuid32_lt uuid)
    [(.name, name), (.pinId, pinId.toNat), (.uuid, uuid.toNat), (.inverted, 0)]
    (by simp [Registry.fields]) (by simp) (by simp) (by simp) (iff_true_intro (taken_prints str uuid))
  refine hmessages.trans ⟨?_, fun hor => ?_⟩
  · exact Or.imp (fun hp => hp.1) (fun hp => hp.2)
  · by_cases htaken : Taken t w .led uuid
    · exact Or.inl ⟨htaken, trivial⟩
    · exact Or.inr ⟨htaken, hor.resolve_left htaken⟩

/-- Neither of the two is. -/
theorem buttonCreateWithUuid_inStep (debounceMs holdTimeMs : UInt32) :
    InStep (buttonCreateWithUuid t fuel w.devices name pinId debounceMs holdTimeMs uuid)
        (creationReport t w .button str uuid)
      ↔ ¬Taken t w .button uuid ∧ Exhausted w.live .button := by
  have hmessages := deviceCreateWithUuid_inStep (r := .button) h hf hn hstr (uuid32_lt uuid)
    [(.name, name), (.pinId, pinId.toNat), (.uuid, uuid.toNat), (.inverted, 0),
      (.debounceMs, debounceMs.toNat), (.holdTimeMs, holdTimeMs.toNat), (.state, btnStateIdle),
      (.pendingEvent, buttonEventNone), (.isPressed, 0)]
    (by simp [Registry.fields]) (by simp) (by simp) (by simp)
    (iff_false_intro (taken_not_prints str uuid))
  refine hmessages.trans ⟨fun hor => ?_, Or.inr⟩
  rcases hor with hp | hp
  · exact absurd hp.2 id
  · exact hp

end

/-- **A line of the display is right for no button**, so the display is right if there is none. -/
theorem buttonDisplayAll_inStep {devs : List Nat} {names : Nat → CStr}
    (hlist : Chain (nodeNext t.ptrSize s.mem) 0 (s.list .button).first (nodesOf t .button devs))
    (hf : devs.length < fuel)
    (hnames : ∀ d ∈ devs, t.cstr (getField t .button s.mem d .name) = some (names d)) :
    ∃ calls, buttonDisplayAll t fuel s = some calls
      ∧ (List.Forall₂ (fun d call => Prints call
          (lineText (names d) (uuidOf t .button s.mem d))) devs calls ↔ devs = []) := by
  have hlen : (nodesOf t .button devs).length < fuel := by
    rw [nodesOf, List.length_map]
    exact hf
  have hline : ∀ d, containerOf t .button (d + t.offset .button .node) = d :=
    fun d => Nat.add_sub_cancel d _
  refine ⟨devs.map (buttonDisplayLine t s), ?_, ?_⟩
  · unfold buttonDisplayAll
    rw [slistForEach_eq _ hlist hlen, nodesOf]
    show some (List.map _ (List.map _ devs)) = _
    rw [List.map_map]
    congr 1
    refine List.map_congr_left fun d _ => ?_
    rw [Function.comp_apply, hline]
  · cases devs with
    | nil => exact iff_of_true .nil rfl
    | cons d devs =>
        refine iff_of_false (fun hall => ?_) (by simp)
        have hfirst := (List.forall₂_cons.mp hall).1
        rw [buttonDisplayLine, nameArg, hnames d List.mem_cons_self] at hfirst
        exact line_not_prints (names d) _ _ hfirst

/--
**A message is in step with its arguments exactly if it does without `%lu`.**

For every reachable world, name, pin and uuid: what `led_createWithUuid` reports is what it
is meant to if the uuid is taken or there is no block, and what `button_createWithUuid`
reports if the uuid is free and there is no block, and only then. `button_displayInfo` is
right for no button, and `button_displayAll` for a registry without any, whatever its size.
-/
theorem callers_inStep_iff (t : Target) (m : Mem) (fuel : Nat) (hf : 64 < fuel)
    (ops : List DeviceOp) (hal : DeviceAllowedRun t fuel (DeviceWorld.start t m) ops) :
    ∃ w, (DeviceWorld.start t m).run t fuel ops = some w
      ∧ (∀ name str pinId uuid, name < 256 ^ t.ptrSize → t.cstr name = some str →
        (InStep (ledCreateWithUuid t fuel w.devices name pinId uuid)
            (creationReport t w .led str uuid)
          ↔ Taken t w .led uuid ∨ Exhausted w.live .led))
      ∧ (∀ name str pinId debounceMs holdTimeMs uuid, name < 256 ^ t.ptrSize →
        t.cstr name = some str →
        (InStep (buttonCreateWithUuid t fuel w.devices name pinId debounceMs holdTimeMs uuid)
            (creationReport t w .button str uuid)
          ↔ ¬Taken t w .button uuid ∧ Exhausted w.live .button))
      ∧ (∀ (btn : Button) (str : CStr), btn.name = some str →
        ¬Prints (buttonDisplayInfo btn) (infoText str btn.uuid.toNat btn.pinId.toNat))
      ∧ ∀ (fuel' : Nat) (s : Devices) (devs : List Nat) (names : Nat → CStr),
        Chain (nodeNext t.ptrSize s.mem) 0 (s.list .button).first (nodesOf t .button devs) →
        devs.length < fuel' →
        (∀ d ∈ devs, t.cstr (getField t .button s.mem d .name) = some (names d)) →
        ∃ calls, buttonDisplayAll t fuel' s = some calls
          ∧ (List.Forall₂ (fun d call => Prints call
              (lineText (names d) (uuidOf t .button s.mem d))) devs calls ↔ devs = []) := by
  obtain ⟨w, hrun, h⟩ := deviceRun_ok hf ops (devices_init_ok t m) hal
  refine ⟨w, hrun, ?_, ?_, ?_, ?_⟩
  · exact fun name str pinId uuid hn hstr => ledCreateWithUuid_inStep h hf hn hstr pinId uuid
  · exact fun name str pinId debounceMs holdTimeMs uuid hn hstr =>
      buttonCreateWithUuid_inStep h hf hn hstr pinId uuid debounceMs holdTimeMs
  · intro btn str hname
    unfold buttonDisplayInfo
    rw [hname]
    exact info_not_prints str btn.uuid btn.pinId.toUInt32
  · exact fun fuel' s devs names hlist hf' hnames => buttonDisplayAll_inStep hlist hf' hnames

end

/-- A button called `T`, at pin 3, with uuid 7. -/
def buttonT : Button := .created (some [ascii 'T']) 3 20 500 7

/-- It is displayed with no uuid, and with its uuid for the pin. -/
theorem buttonT_shifted :
    Prints (buttonDisplayInfo buttonT) (literalBytes "Device: T | UUID: lu | pin_id: 7\r\n")
      ∧ ¬ ∀ (btn : Button) (str : CStr), btn.name = some str →
        Prints (buttonDisplayInfo btn) (infoText str btn.uuid.toNat btn.pinId.toNat) := by
  have hshown : Prints (buttonDisplayInfo buttonT)
      (literalBytes "Device: T | UUID: lu | pin_id: 7\r\n") := by
    have htext : rendered (nameParts "Device: " " | UUID: "
          (longParts ++ (literals " | pin_id: " ++ .convert .unsigned :: literals "\r\n")))
        [.str (some [ascii 'T']), .unsigned 7, .unsigned 3]
        = some (literalBytes "Device: T | UUID: lu | pin_id: 7\r\n", [.unsigned 3]) := by
      decide
    exact prints_of_parts info_madeOf.1 info_madeOf.2 htext
  refine ⟨hshown, fun hall => ?_⟩
  exact absurd (hshown.unique (hall buttonT [ascii 'T'] rfl)) (by decide)

/-- A target that has the name `T` at address 8. -/
def arm32T : Target := { arm32 with cstr := fun ptr => if ptr = 8 then some [ascii 'T'] else none }

/-- An LED, and the same uuid again. -/
def sameUuid : List DeviceOp := [.ledCreateWithUuid 8 13 7]

theorem sameUuid_allowed :
    DeviceAllowedRun arm32T 65 (DeviceWorld.start arm32T (fun _ => 0)) sameUuid := by
  decide +kernel

/-- The uuid is taken, so the report of another creation with it is in step. -/
theorem callers_inStep_sameUuid :
    ∃ w, (DeviceWorld.start arm32T (fun _ => 0)).run arm32T 65 sameUuid = some w
      ∧ Taken arm32T w .led 7
      ∧ InStep (ledCreateWithUuid arm32T 65 w.devices 8 13 7)
          (creationReport arm32T w .led [ascii 'T'] 7) := by
  obtain ⟨w, hrun, hled, _⟩ := callers_inStep_iff arm32T (fun _ => 0) 65 (by decide) sameUuid
    sameUuid_allowed
  have hall : ∀ w ∈ (DeviceWorld.start arm32T (fun _ => 0)).run arm32T 65 sameUuid,
      Taken arm32T w .led 7 := by decide +kernel
  have htaken := hall w hrun
  exact ⟨w, hrun, htaken, (hled 8 [ascii 'T'] 13 7 (by decide) rfl).mpr (Or.inl htaken)⟩

end FwCore.Proof
