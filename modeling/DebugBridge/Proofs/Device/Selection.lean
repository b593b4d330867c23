import DebugBridge.Device.Selection
import DebugBridge.Proofs.Text.Lines
import Mathlib.Tactic.Tauto

/-!
# What a selection decides

The devices that a selector means are said here by the shape of their serials. A selection is
decided by them alone: none, several, or one that can or cannot be used. A pass counts them and
keeps the place of the first, which is where the only one is taken out.
-/

namespace DebugBridge

/-- The devices that a selector means. -/
def Selector.Means : Selector → Device → Prop
  | .any, _ => True
  | .serial wanted, d => d.serial = wanted ∨
      ':' ∉ wanted.toList ∧ ∃ port, d.serial.toList = wanted.toList ++ ':' :: port
  | .usb, d => ¬ "emulator-".toList <+: d.serial.toList ∧ ':' ∉ d.serial.toList
  | .tcpip, d => "emulator-".toList <+: d.serial.toList ∨ ':' ∈ d.serial.toList

theorem Device.isReady_iff {d : Device} : d.isReady = true ↔ d.state = "device" :=
  decide_eq_true_iff

/-- A serial has this host part exactly if it goes on with a colon behind it. -/
theorem hostPart?_eq_some {serial host : String} (plain : ':' ∉ host.toList) :
    hostPart? serial = some host ↔ ∃ port, serial.toList = host.toList ++ ':' :: port := by
  unfold hostPart?
  constructor
  · intro found
    split at found
    · next mem =>
      obtain ⟨before, port, shape, fresh⟩ := List.eq_append_cons_of_mem mem
      rw [shape, Text.takeWhile_fresh fresh] at found
      obtain rfl := Option.some.inj found
      exact ⟨port, by simpa using shape⟩
    · cases found
  · rintro ⟨port, shape⟩
    rw [if_pos (by simp [shape]), shape, Text.takeWhile_fresh plain, String.ofList_toList]

theorem attachment_eq_usb {d : Device} : d.attachment = .usb ↔
    ¬ "emulator-".toList <+: d.serial.toList ∧ ':' ∉ d.serial.toList := by
  unfold Device.attachment Attachment.ofSerial
  simp only [List.isPrefixOf_iff_prefix]
  by_cases emulator : "emulator-".toList <+: d.serial.toList
  · simp only [emulator, if_true, reduceCtorEq, not_true, false_and]
  · by_cases colon : ':' ∈ d.serial.toList
    · simp only [emulator, colon, if_true, if_false, reduceCtorEq, not_true, and_false]
    · simp only [emulator, colon, if_false, not_false_eq_true, and_self]

theorem Selector.accepts_iff {selector : Selector} {d : Device} :
    selector.accepts d = true ↔ selector.Means d := by
  cases selector with
  | any => simp [accepts, Means]
  | usb => simp only [accepts, Means, decide_eq_true_eq, attachment_eq_usb]
  | tcpip =>
    simp only [accepts, Means, decide_eq_true_eq, ne_eq, attachment_eq_usb]
    tauto
  | serial wanted =>
    by_cases plain : ':' ∈ wanted.toList
    · simp [accepts, Means, serialMatches, plain]
    · simp [accepts, Means, serialMatches, plain, hostPart?_eq_some plain]

instance (selector : Selector) (d : Device) : Decidable (selector.Means d) :=
  decidable_of_iff _ Selector.accepts_iff

namespace Selection

/-- The listing with every device marked by whether the selector means it. -/
def mark (selector : Selector) (devices : List Device) : List Device :=
  devices.map fun d => { d with selected := selector.accepts d }

theorem mark_append (selector : Selector) (before after : List Device) :
    mark selector (before ++ after) = mark selector before ++ mark selector after :=
  List.map_append

@[simp] theorem length_mark (selector : Selector) (devices : List Device) :
    (mark selector devices).length = devices.length :=
  List.length_map _

theorem filter_mark (selector : Selector) (devices : List Device) :
    (mark selector devices).filter (·.selected) =
      (devices.filter selector.accepts).map fun d => { d with selected := true } := by
  induction devices with
  | nil => rfl
  | cons d rest ih =>
    have ih : List.filter (·.selected)
        (rest.map fun d => { d with selected := selector.accepts d }) = _ := ih
    cases accepted : selector.accepts d <;> simp [mark, accepted, ih]

/-! ### The pass -/

section pass
variable (selector : Selector)

theorem pass_marked (devices : List Device) (place : Nat) (t : Tally) :
    (pass selector place t devices).2 = mark selector devices := by
  induction devices generalizing place t with
  | nil => rfl
  | cons d rest ih => exact congrArg (_ :: ·) (ih _ _)

theorem pass_count (devices : List Device) (place : Nat) (t : Tally) :
    (pass selector place t devices).1.count =
      t.count + (devices.filter selector.accepts).length := by
  induction devices generalizing place t with
  | nil => rfl
  | cons d rest ih =>
    change (pass selector (place + 1) _ rest).1.count = _
    rw [ih]
    cases accepted : selector.accepts d <;> simp [accepted, Tally.add]
    omega

/-- The place that is kept is that of the first device that matches. -/
theorem pass_first (devices : List Device) (place : Nat) (t : Tally) :
    (pass selector place t devices).1.first? =
      t.first?.or ((devices.findIdx? selector.accepts).map (place + ·)) := by
  induction devices generalizing place t with
  | nil => simp [pass]
  | cons d rest ih =>
    change (pass selector (place + 1) _ rest).1.first? = _
    rw [ih, List.findIdx?_cons]
    cases accepted : selector.accepts d with
    | true => cases first : t.first? <;> simp [Tally.add, first]
    | false =>
      cases rest.findIdx? selector.accepts with
      | none => simp
      | some later => simp [Nat.add_assoc, Nat.add_comm 1]

end pass

/-- A device that has not accepted this host's key is not ready. -/
theorem vet_ok {d d' : Device} : vet d = .ok d' ↔ d.isReady = true ∧ d' = d := by
  unfold vet
  split
  · next unauthorized =>
    simp [Device.isReady, unauthorized, Device.unauthorizedState, Device.readyState]
  · split
    · next ready => simp [ready, eq_comm]
    · next unready => simp [unready]

/-! ### The three ways a selection goes -/

variable {devices : List Device} {selector : Selector}

/-- A selection concludes from the number of devices that match and from the first of them. -/
theorem select_eq (devices : List Device) (selector : Selector) :
    select devices selector =
      conclude selector (mark selector devices) (devices.filter selector.accepts).length
        ((devices.findIdx? selector.accepts).bind fun place =>
          ((mark selector devices)[place]?).map (place, ·)) := by
  have count := pass_count selector devices 0 {}
  have first := pass_first selector devices 0 {}
  have marked := pass_marked selector devices 0 {}
  unfold select
  simp only [count, first, marked, Nat.zero_add, Option.none_or, Option.map_id']

theorem select_of_none (none : devices.filter selector.accepts = []) :
    select devices selector =
      (.error (.notFound selector (mark selector devices)), mark selector devices) := by
  rw [select_eq, none, List.length_nil]
  unfold conclude
  split <;> trivial

/-- The first device that matches, with its place. -/
theorem first_match {before after : List Device} {d : Device}
    (earlier : ∀ e ∈ before, selector.accepts e = false) (accepted : selector.accepts d = true) :
    (((before ++ d :: after).findIdx? selector.accepts).bind fun place =>
        ((mark selector (before ++ d :: after))[place]?).map (place, ·)) =
      some (before.length, { d with selected := true }) := by
  have place : (before ++ d :: after).findIdx? selector.accepts = some before.length := by
    rw [List.findIdx?_append, List.findIdx?_eq_none_iff.mpr earlier]
    simp [List.findIdx?_cons, accepted]
  have there : (mark selector (before ++ d :: after))[before.length]? =
      some { d with selected := true } := by
    rw [mark_append, List.getElem?_append_right (by simp)]
    simp [mark, accepted]
  rw [place]
  exact congrArg (Option.map (before.length, ·)) there

/-- One device alone matches where it stands between others that do not. -/
theorem filter_eq_singleton {d : Device} : devices.filter selector.accepts = [d] ↔
    ∃ before after, devices = before ++ d :: after ∧ selector.accepts d = true ∧
      ∀ e ∈ before ++ after, selector.accepts e = false := by
  rw [List.filter_eq_cons_iff]
  simp only [List.filter_eq_nil_iff, List.mem_append, Bool.not_eq_true, or_imp, forall_and]
  constructor
  · rintro ⟨before, after, shape, earlier, accepted, later⟩
    exact ⟨before, after, shape, accepted, earlier, later⟩
  · rintro ⟨before, after, shape, accepted, earlier, later⟩
    exact ⟨before, after, shape, earlier, accepted, later⟩

theorem select_of_one {before after : List Device} {d : Device}
    (accepted : selector.accepts d = true)
    (others : ∀ e ∈ before ++ after, selector.accepts e = false) :
    select (before ++ d :: after) selector =
      match vet { d with selected := true } with
      | .error e => (.error e, mark selector (before ++ d :: after))
      | .ok d => (.ok d, mark selector (before ++ after)) := by
  have alone : (before ++ d :: after).filter selector.accepts = [d] :=
    filter_eq_singleton.mpr ⟨before, after, rfl, accepted, others⟩
  have earlier : ∀ e ∈ before, selector.accepts e = false :=
    fun e mem => others e (List.mem_append_left _ mem)
  have erased : (mark selector (before ++ d :: after)).eraseIdx before.length =
      mark selector (before ++ after) := by
    rw [mark_append, List.eraseIdx_append_of_length_le (by simp)]
    simp [mark]
  rw [select_eq, alone, first_match earlier accepted]
  cases vetted : vet { d with selected := true } with
  | error e => simp only [conclude, List.length_singleton, vetted]
  | ok d' => simp only [conclude, List.length_singleton, vetted, erased]

theorem select_of_several (several : 2 ≤ (devices.filter selector.accepts).length) :
    select devices selector =
      (.error (.ambiguous selector
        ((devices.filter selector.accepts).map fun d => { d with selected := true })),
        mark selector devices) := by
  obtain ⟨first, rest, matching⟩ : ∃ first rest, devices.filter selector.accepts = first :: rest :=
    List.exists_cons_of_ne_nil (by intro none; simp [none] at several)
  obtain ⟨before, after, rfl, earlier, accepted, -⟩ := List.filter_eq_cons_iff.mp matching
  rw [select_eq, first_match (fun e mem => by simpa using earlier e mem) accepted, ← filter_mark]
  unfold conclude
  split <;> simp_all

/-! ### The decision -/

/-- Marking goes by what the selector means. -/
theorem mark_eq (selector : Selector) (devices : List Device) :
    mark selector devices =
      devices.map fun d => { d with selected := decide (selector.Means d) } := by
  simp only [mark, ← Selector.accepts_iff, Bool.decide_eq_true]

theorem mark_others (others : ∀ e ∈ devices, selector.accepts e = false) :
    mark selector devices = devices.map fun e => { e with selected := false } :=
  List.map_congr_left fun e mem => by rw [others e mem]

/-- A selection is decided by the devices that the selector means, in the order of the listing:
none of them, several of them, or one, which is taken out from its place if it is ready. Otherwise
the listing stays as it is but for the marks. -/
theorem select_decides (devices : List Device) (selector : Selector) :
    let matching := devices.filter fun d => selector.Means d
    let marked := devices.map fun d => { d with selected := decide (selector.Means d) }
    (matching = [] →
      select devices selector = (.error (.notFound selector marked), marked)) ∧
    (2 ≤ matching.length →
      select devices selector =
        (.error (.ambiguous selector (matching.map fun d => { d with selected := true })),
          marked)) ∧
    ∀ d, matching = [d] →
      (d.state = "unauthorized" →
        select devices selector = (.error (.unauthorized d.serial), marked)) ∧
      (d.state ≠ "unauthorized" → d.state ≠ "device" →
        select devices selector = (.error (.badState d.serial d.state), marked)) ∧
      (d.state = "device" →
        ∃ before after, devices = before ++ d :: after ∧
          select devices selector =
            (.ok { d with selected := true },
              (before ++ after).map fun e => { e with selected := false })) := by
  have same : (devices.filter fun d => selector.Means d) = devices.filter selector.accepts :=
    List.filter_congr fun d _ => by simp only [← Selector.accepts_iff, Bool.decide_eq_true]
  simp only [same, ← mark_eq]
  refine ⟨select_of_none, select_of_several, fun d alone => ?_⟩
  obtain ⟨before, after, rfl, accepted, others⟩ := filter_eq_singleton.mp alone
  have decided := select_of_one accepted others
  refine ⟨fun unauthorized => ?_, fun authorized unready => ?_, fun ready => ?_⟩
  · have vetted : vet { d with selected := true } = .error (.unauthorized d.serial) :=
      if_pos unauthorized
    rw [decided, vetted]
  · have vetted : vet { d with selected := true } = .error (.badState d.serial d.state) :=
      (if_neg authorized).trans (if_neg (unready ∘ Device.isReady_iff.mp))
    rw [decided, vetted]
  · have vetted : vet { d with selected := true } = .ok { d with selected := true } :=
      vet_ok.mpr ⟨Device.isReady_iff.mpr ready, rfl⟩
    refine ⟨before, after, rfl, ?_⟩
    rw [decided, vetted, ← mark_others others]

/-- An address without a port means the device at that address, and none at a longer one. -/
theorem select_decides_address :
    let listing : List Device := [⟨"0123", "device", none, true⟩,
      ⟨"10.0.0.50:5555", "device", none, true⟩, ⟨"10.0.0.5:5555", "device", some "Pixel", false⟩]
    let meant : Device := ⟨"10.0.0.5:5555", "device", some "Pixel", false⟩
    (listing.filter fun d => (Selector.serial "10.0.0.5").Means d) = [meant] ∧
      meant.state = "device" ∧
      ∃ before after, listing = before ++ meant :: after ∧
        select listing (.serial "10.0.0.5") =
          (.ok { meant with selected := true },
            (before ++ after).map fun e => { e with selected := false }) := by
  intro listing meant
  have alone : (listing.filter fun d => (Selector.serial "10.0.0.5").Means d) = [meant] := by
    decide +kernel
  exact ⟨alone, rfl, ((select_decides listing (.serial "10.0.0.5")).2.2 meant alone).2.2 rfl⟩

end Selection
end DebugBridge
