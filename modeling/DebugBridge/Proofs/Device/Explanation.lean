import DebugBridge.Proofs.Bridge.Calm
import DebugBridge.Proofs.Bridge.Classified
import DebugBridge.Proofs.Bridge.Diagnostics
import DebugBridge.Proofs.Bridge.Still
import DebugBridge.Proofs.Choice

/-!
# Why no device was chosen

A choice that fails says why, once. Where the listing explains the failure it is reported whole, in
its order, with a mark on the devices that the selector means. A choice that is cancelled says
nothing that anybody but a developer would want to know.
-/

namespace DebugBridge

open Host

def Event.errors (events : List Event) : List String :=
  (events.filter (·.severity = .error)).map (·.text)

/-- From one host to the other exactly these errors were reported, in this order. -/
def Host.Reports (texts : List String) (h h' : Host) : Prop :=
  ∃ later, h'.events = later.reverse ++ h.events ∧ Event.errors later = texts

theorem reports_of_wrote {h h' : Host} (wrote : Wrote (·.severity ≠ .error) h h') :
    Reports [] h h' := by
  obtain ⟨later, events, harmless⟩ := wrote
  refine ⟨later.reverse, by rw [List.reverse_reverse, events], ?_⟩
  unfold Event.errors
  rw [List.filter_eq_nil_iff.mpr fun e mem => by simpa using harmless e (List.mem_reverse.mp mem)]
  rfl

theorem Host.Reports.trans {first rest : List String} {h₁ h₂ h₃ : Host}
    (a : Reports first h₁ h₂) (b : Reports rest h₂ h₃) : Reports (first ++ rest) h₁ h₃ := by
  obtain ⟨later, events, errors⟩ := a
  obtain ⟨later', events', errors'⟩ := b
  refine ⟨later ++ later', by simp [events', events], ?_⟩
  rw [← errors, ← errors']
  simp [Event.errors]

/-- The line of a device begins with the mark exactly if the device is selected. -/
theorem Device.marked_iff (d : Device) :
    "    -->".toList <+: d.row.toList ↔ d.selected = true := by
  have itself (s : String) : toString s = s := rfl
  unfold Device.row
  cases d.selected <;> simp [itself, String.toList_append, List.cons_prefix_cons]

namespace Selection

/-- A selection that fails leaves the listing as it was, with the matching devices marked. -/
theorem select_failed {devices left : List Device} {selector : Selector} {cause : SelectionError}
    (failed : select devices selector = (.error cause, left)) :
    left = devices.map fun d => { d with selected := decide (selector.Means d) } := by
  rw [← mark_eq]
  rw [select_eq] at failed
  unfold conclude at failed
  split at failed
  · split at failed
    · exact (Prod.mk.inj failed).2.symm
    · cases failed
  · exact (Prod.mk.inj failed).2.symm
  · exact (Prod.mk.inj failed).2.symm
  · exact (Prod.mk.inj failed).2.symm

end Selection

/-- The listing as it explains a failure: the line of each device, with a mark on those that the
selector means. -/
def explanation (selector : Selector) (devices : List Device) : List String :=
  devices.map fun d => Device.row { d with selected := decide (selector.Means d) }

/-- The errors that a choice reports about the result of a listing. -/
def complaints (selector : Selector) : Except BridgeError (List Device) → List String
  | .error cause => if cause.isInterrupted then [] else [(ChoiceError.listing cause).message]
  | .ok devices =>
    match (Selection.select devices selector).1 with
    | .ok _ => []
    | .error cause =>
      cause.message :: if cause.concernsListing then explanation selector devices else []

/-- The lines that explain a failure are reported as errors. -/
theorem errors_lines (lines : List String) :
    Event.errors (lines.map fun line => ⟨.error, line⟩) = lines := by
  induction lines with
  | nil => rfl
  | cons line rest ih => exact congrArg (line :: ·) ih

/-- What a choice writes itself after the listing. -/
theorem choose_writes (selector : Selector) {b : Bridge} {token : String} {h h₁ : Host}
    {listed : Except BridgeError (List Device)} (ran : b.devices token h = .ok listed h₁) :
    ∃ own, b.choose token selector h = .ok (chosenFrom selector listed)
        { h₁ with events := own.reverse ++ h₁.events } ∧
      Event.errors own = complaints selector listed ∧
      ∀ cause, listed = .error cause → cause.isInterrupted = true →
        ∀ e ∈ own, e.severity = .debug := by
  unfold Bridge.choose
  rw [Act.bind_apply, ran]
  cases listed with
  | error cause =>
    cases cancelled : cause.isInterrupted with
    | true =>
      have silent : complaints selector (.error cause) = [] := by simp [complaints, cancelled]
      refine ⟨[⟨.debug, "device listing interrupted"⟩], ?_, silent.symm, by simp⟩
      simp only [cancelled, if_true]
      rfl
    | false =>
      have once : complaints selector (.error cause) = [(ChoiceError.listing cause).message] := by
        simp [complaints, cancelled]
      refine ⟨[⟨.error, (ChoiceError.listing cause).message⟩], ?_, once.symm, ?_⟩
      · simp only [cancelled, Bool.false_eq_true, if_false]
        rfl
      · rintro _ ⟨⟩ raised
        simp [cancelled] at raised
  | ok devices =>
    unfold complaints chosenFrom
    simp only
    rw [Act.bind_apply, Act.note_apply]
    cases selected : Selection.select devices selector with
    | mk result left =>
      cases result with
      | ok d =>
        exact ⟨[⟨.debug, s!"{devices.length} device(s) listed"⟩,
          ⟨.info, s!"device selected: {d.serial} ({d.attachment.label})"⟩], rfl, rfl, nofun⟩
      | error cause =>
        obtain rfl := Selection.select_failed selected
        have lines : Device.table (devices.map fun d =>
            { d with selected := decide (selector.Means d) }) = explanation selector devices :=
          List.map_map
        simp only [Act.bind_apply, Act.note_apply, lines]
        cases cause.concernsListing with
        | false =>
          exact ⟨[⟨.debug, s!"{devices.length} device(s) listed"⟩, ⟨.error, cause.message⟩], rfl,
            rfl, nofun⟩
        | true =>
          refine ⟨⟨.debug, s!"{devices.length} device(s) listed"⟩ :: ⟨.error, cause.message⟩ ::
            (explanation selector devices).map fun line => ⟨.error, line⟩, ?_, ?_, nofun⟩
          · simp only [if_true, List.reverse_cons, List.append_assoc, List.singleton_append]
            rfl
          · exact congrArg (cause.message :: ·) (errors_lines _)

/-- A listing that nobody interrupts succeeds exactly if its command does and all of its output was
read; then it is that of the whole output. -/
theorem returns_devices_ok {program : String} {fate : Fate} {bytes : List UInt8}
    {fault? : Option Fault} {devices : List Device} :
    (Request.ask .devices).returns program { fate := fate, output := .ended bytes fault? } =
        .ok devices ↔
      fate = .exits (.code 0) ∧ fault? = none ∧ bytes.length ≤ 65536 ∧
        Listing.devices (Utf8.decode bytes) = devices := by
  cases fate with
  | hangs => simp [Request.returns]
  | missing => simp [Request.returns]
  | refused cause => simp [Request.returns]
  | exits o =>
    have result : (Request.ask .devices).returns program
        { fate := .exits o, output := .ended bytes fault? } =
        wholeResult "devices" 65536 Listing.devices bytes fault? o :=
      result_classified .devices bytes fault? o
    rw [result]
    unfold wholeResult
    split_ifs with large
    · simp [Nat.not_le_of_lt large]
    · cases fault? with
      | some cause => simp
      | none =>
        have small := Nat.le_of_not_lt large
        cases judged : verdict "devices" o with
        | ok _ =>
          obtain rfl := verdict_eq_ok.mp judged
          have same : (Except.ok (Listing.devices (Utf8.decode bytes)) : Except BridgeError _) =
              .ok devices ↔ Listing.devices (Utf8.decode bytes) = devices :=
            ⟨Except.ok.inj, congrArg _⟩
          simp only [Except.map, small, true_and]
          exact same
        | error e =>
          have failed : o ≠ .code 0 := by
            rintro rfl
            cases judged
          simp [failed, Except.map]

/-- A listing that nobody interrupts ends, and is not cancelled. -/
theorem devices_still {b : Bridge} {token : String} {h : Host} {fate : Fate} {bytes : List UInt8}
    {fault? : Option Fault} (still : Still token h) (ends : fate ≠ .hangs)
    (reply : h.replyTo (b.argv Query.devices.arguments) =
      { fate := fate, output := .ended bytes fault? }) :
    ∃ listed h₁, b.devices token h = .ok listed h₁ ∧
      (∀ devices, listed = .ok devices ↔ fate = .exits (.code 0) ∧ fault? = none ∧
        bytes.length ≤ 65536 ∧ Listing.devices (Utf8.decode bytes) = devices) ∧
      ∀ cause, listed = .error cause → cause.isInterrupted = false := by
  have regular : (Reply.mk fate (.ended bytes fault?)).Ends :=
    ⟨ends, by cases fault? <;> exact nofun⟩
  have reply : h.replyTo (b.argv (Request.ask .devices).arguments) = _ := reply
  obtain ⟨h₁, ran⟩ := run_still (b := b) (.ask .devices) still (by rw [reply]; exact regular)
  rw [reply] at ran
  exact ⟨_, h₁, ran, fun _ => returns_devices_ok, fun _ => Request.returns_regular _ regular⟩

/-- Nobody interrupts: the choice returns a device exactly if the command succeeded, all of its
output was read, and the selector means one device of the whole listing, which is ready. Otherwise
it reports one error; where nothing or too much matched, the whole listing follows line by line in
its order, marked where the selector means the device. A choice whose listing is cancelled writes
nothing but details, whenever the interrupt comes. -/
theorem choose_explains (b : Bridge) (token : String) (selector : Selector) (h : Host) :
    (∀ fate bytes fault?, Still token h → fate ≠ .hangs →
      h.replyTo (b.argv Query.devices.arguments) =
        { fate := fate, output := .ended bytes fault? } →
      ∃ listed h₁ x h', b.devices token h = .ok listed h₁ ∧
        b.choose token selector h = .ok x h' ∧
        (∀ d, x = .ok d ↔ fate = .exits (.code 0) ∧ fault? = none ∧ bytes.length ≤ 65536 ∧
          ∃ only,
            (Listing.devices (Utf8.decode bytes)).filter (fun d => selector.Means d) = [only] ∧
            only.state = "device" ∧ d = { only with selected := true }) ∧
        (∀ cause, x = .error (.selection cause) →
          Reports (cause.message ::
            if cause.concernsListing then
              explanation selector (Listing.devices (Utf8.decode bytes))
            else []) h h') ∧
        ∀ cause, x = .error (.listing cause) →
          Reports [(ChoiceError.listing cause).message] h₁ h') ∧
    (∀ d, "    -->".toList <+:
        (Device.row { d with selected := decide (selector.Means d) }).toList ↔
      selector.Means d) ∧
    ∀ cause h₁, b.devices token h = .ok (.error cause) h₁ → cause.isInterrupted = true →
      ∃ own h', b.choose token selector h = .ok (.error (.listing cause)) h' ∧
        h'.events = own ++ h₁.events ∧ ∀ event ∈ own, event.severity = .debug := by
  refine ⟨fun fate bytes fault? still ends reply => ?_, fun d => ?_,
    fun cause h₁ ran cancelled => ?_⟩
  · obtain ⟨listed, h₁, ran, succeeds, regular⟩ := devices_still still ends reply
    obtain ⟨own, chosen, errors, -⟩ := choose_writes selector ran
    refine ⟨listed, h₁, _, _, ran, chosen, fun d => ?_, fun cause failed => ?_,
      fun cause failed => ?_⟩
    · have accepted : selector.accepts = fun d => decide (selector.Means d) :=
        funext fun d => by simp [← Selector.accepts_iff]
      rw [chosenFrom_ok]
      simp only [succeeds, accepted, Device.isReady_iff]
      constructor
      · rintro ⟨_, only, ⟨exited, whole, small, rfl⟩, matching⟩
        exact ⟨exited, whole, small, only, matching⟩
      · rintro ⟨exited, whole, small, only, matching⟩
        exact ⟨_, only, ⟨exited, whole, small, rfl⟩, matching⟩
    · obtain ⟨devices, rfl, selected⟩ := chosenFrom_failed failed
      obtain ⟨-, -, -, rfl⟩ := (succeeds devices).mp rfl
      have before := reports_of_wrote (devices_succeedsWriting (by simp) (by simp) _ _ _ ran)
      refine before.trans ⟨own, rfl, errors.trans ?_⟩
      simp only [complaints, selected]
    · obtain rfl := chosenFrom_unlisted failed
      refine ⟨own, rfl, errors.trans ?_⟩
      simp [complaints, regular cause rfl]
  · rw [Device.marked_iff]
    exact decide_eq_true_iff
  · obtain ⟨own, chosen, -, silent⟩ := choose_writes selector ran
    exact ⟨own.reverse, _, chosen, rfl, fun event mem =>
      silent cause rfl cancelled event (List.mem_reverse.mp mem)⟩

def crowdedListing : String :=
  "List of devices attached\nphone device\nlab:1 offline\nlab:2 device\n"

def crowded : Host where
  backend := fun _ _ => { output := { bytes := Utf8.encode crowdedListing } }

/-- The same host, with an interrupt while the listing command starts. -/
def crowdedInterrupted : Host := { crowded with strikes := [⟨0, .spawn, "work", false⟩] }

/-- A choice between two devices is explained, and one that is cancelled is not. -/
theorem choose_explains_ambiguous :
    Still "work" crowded ∧
      (∃ e h', ({} : Bridge).choose "work" .tcpip crowded = .ok (.error (.selection e)) h' ∧
        Reports ["multiple (2) ADB devices match TCP/IP: lab:1, lab:2; " ++
            "select a device by serial, USB only, or TCP/IP only",
          "             (usb)  phone                       device  ",
          "    -->    (tcpip)  lab:1                      offline  ",
          "    -->    (tcpip)  lab:2                       device  "] crowded h') ∧
      ∃ h₁ own h', ({} : Bridge).devices "work" crowdedInterrupted = .ok (.error .interrupted) h₁ ∧
        ({} : Bridge).choose "work" .tcpip crowdedInterrupted =
          .ok (.error (.listing .interrupted)) h' ∧
        h'.events = own ++ h₁.events ∧ ∀ event ∈ own, event.severity = .debug := by
  have still : Still "work" crowded := ⟨rfl, rfl, rfl, rfl⟩
  refine ⟨still, ?_, ?_⟩
  · obtain ⟨listed, h₁, x, h', -, chosen, -, reported, -⟩ :=
      (choose_explains {} "work" .tcpip crowded).1 (.exits (.code 0))
        (Utf8.encode crowdedListing) none still nofun rfl
    have several : Act.returned? (({} : Bridge).choose "work" .tcpip) crowded =
        some (.error (.selection (.ambiguous .tcpip [⟨"lab:1", "offline", none, true⟩,
          ⟨"lab:2", "device", none, true⟩]))) := by
      decide +kernel
    obtain ⟨rfl, rfl⟩ := EStateM.Result.ok.inj (chosen.symm.trans (Act.of_returned? several))
    refine ⟨_, _, chosen, ?_⟩
    convert reported _ rfl using 1
    decide +kernel
  · have listed : ({} : Bridge).devices "work" crowdedInterrupted = _ :=
      Act.of_returned? (a := .error .interrupted) (by decide +kernel)
    obtain ⟨own, h', chosen, events, details⟩ :=
      (choose_explains {} "work" .tcpip crowdedInterrupted).2.2 .interrupted _ listed rfl
    exact ⟨_, own, h', listed, chosen, events, details⟩

end DebugBridge
