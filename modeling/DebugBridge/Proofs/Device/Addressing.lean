import DebugBridge.Proofs.Bridge.Commands
import DebugBridge.Proofs.Choice
import Mathlib.Data.List.Nodup
import Mathlib.Data.List.Perm.Subperm

/-!
# Devices by their serials

A device is meant by its own serial, and only one thing can come in between: a serial without a port
stands for its address, so it also means every device at that address. A serial with a port means
one device alone. Connecting to an address attaches the device whose serial is the address with its
port, which is found again under the address as it was given.
-/

namespace DebugBridge

/-- The serial of the device names no port, and that of the other is the same with a port. -/
def Device.Covers (d other : Device) : Prop :=
  ':' ∉ d.serial.toList ∧ ∃ port, other.serial.toList = d.serial.toList ++ ':' :: port

theorem Device.accepts_serial {d other : Device} :
    (Selector.serial d.serial).accepts other = true ↔
      other.serial = d.serial ∨ d.Covers other :=
  Selector.accepts_iff

theorem Device.accepts_own (d : Device) : (Selector.serial d.serial).accepts d = true :=
  accepts_serial.mpr (.inl rfl)

/-- No device covers one with its own serial. -/
theorem Device.Covers.ne {d other : Device} (covers : d.Covers other) : other ≠ d := by
  rintro rfl
  obtain ⟨-, port, shape⟩ := covers
  simpa using congrArg List.length shape

namespace Selection

section listing
variable {devices : List Device} {d : Device}

/-- In a listing of distinct serials a serial means its device and those that this covers. -/
theorem accepts_listed (distinct : (devices.map (·.serial)).Nodup) (mem : d ∈ devices)
    {other : Device} (listed : other ∈ devices) :
    (Selector.serial d.serial).accepts other = true ↔ other = d ∨ d.Covers other := by
  rw [Device.accepts_serial]
  refine or_congr_left ⟨fun same => ?_, fun same => congrArg Device.serial same⟩
  exact List.inj_on_of_nodup_map distinct listed mem same

theorem filter_uncovered (distinct : (devices.map (·.serial)).Nodup) (mem : d ∈ devices)
    (uncovered : ¬ ∃ other ∈ devices, d.Covers other) :
    devices.filter (Selector.serial d.serial).accepts = [d] := by
  have own : ∀ other ∈ devices, (Selector.serial d.serial).accepts other = (other == d) := by
    intro other listed
    rw [Bool.eq_iff_iff, accepts_listed distinct mem listed, beq_iff_eq,
      or_iff_left fun covers => uncovered ⟨other, listed, covers⟩]
  rw [List.filter_congr own, List.filter_beq, List.count_eq_one_of_mem distinct.of_map mem]
  rfl

theorem two_le_filter_covered (distinct : (devices.map (·.serial)).Nodup) (mem : d ∈ devices)
    {other : Device} (listed : other ∈ devices) (covers : d.Covers other) :
    2 ≤ (devices.filter (Selector.serial d.serial).accepts).length := by
  have matching : [d, other] ⊆ devices.filter (Selector.serial d.serial).accepts := by
    have second := (accepts_listed distinct mem listed).mpr (.inr covers)
    simpa [List.subset_def, mem, listed, second] using d.accepts_own
  exact (List.Nodup.subperm (by simpa using covers.ne.symm) matching).length_le

/-- A ready device that covers no other is what its serial resolves to. -/
theorem select_uncovered (distinct : (devices.map (·.serial)).Nodup) (mem : d ∈ devices)
    (ready : d.state = "device") (uncovered : ¬ ∃ other ∈ devices, d.Covers other) :
    (select devices (.serial d.serial)).1 = .ok { d with selected := true } :=
  select_ok.mpr
    ⟨d, filter_uncovered distinct mem uncovered, Device.isReady_iff.mpr ready, rfl⟩

/-- A device that covers another is one of several that its serial means. -/
theorem select_covered (distinct : (devices.map (·.serial)).Nodup) (mem : d ∈ devices)
    (covered : ∃ other ∈ devices, d.Covers other) :
    ∃ candidates,
      (select devices (.serial d.serial)).1 = .error (.ambiguous (.serial d.serial) candidates) ∧
      ∀ c, c ∈ candidates ↔
        ∃ e ∈ devices, (e = d ∨ d.Covers e) ∧ c = { e with selected := true } := by
  obtain ⟨other, listed, covers⟩ := covered
  have several := two_le_filter_covered distinct mem listed covers
  refine ⟨_, congrArg Prod.fst (select_of_several several), fun c => ?_⟩
  simp only [List.mem_map, List.mem_filter]
  constructor
  · rintro ⟨e, ⟨listed, accepted⟩, rfl⟩
    exact ⟨e, listed, (accepts_listed distinct mem listed).mp accepted, rfl⟩
  · rintro ⟨e, listed, means, rfl⟩
    exact ⟨e, ⟨listed, (accepts_listed distinct mem listed).mpr means⟩, rfl⟩

end listing
end Selection

/-! ### Network addresses -/

namespace Wireless

open Host

theorem withPort_of_colon {address : String} (colon : ':' ∈ address.toList) :
    withPort address = address := if_pos colon

theorem toList_withPort {address : String} (plain : ':' ∉ address.toList) :
    (withPort address).toList = address.toList ++ ':' :: "5555".toList := by
  have standard : (toString standardPort).toList = "5555".toList := by decide
  unfold withPort
  rw [if_neg plain, String.toList_append, String.toList_append, standard, List.append_assoc]
  rfl

/-- An address with its port is completed already. -/
theorem colon_mem_withPort (address : String) : ':' ∈ (withPort address).toList := by
  by_cases colon : ':' ∈ address.toList
  · rwa [withPort_of_colon colon]
  · simp [toList_withPort colon]

section attached
variable {address : String} {d : Device} (attached : d.serial = withPort address)
include attached

/-- The device that is attached at an address is meant by the address as it was given. -/
theorem accepts_address : (Selector.serial address).accepts d = true := by
  rw [Selector.accepts_iff]
  by_cases colon : ':' ∈ address.toList
  · exact .inl (attached.trans (withPort_of_colon colon))
  · exact .inr ⟨colon, "5555".toList, attached ▸ toList_withPort colon⟩

theorem colon_mem_serial : ':' ∈ d.serial.toList := attached ▸ colon_mem_withPort address

end attached

section connect
variable {b : Bridge} {token address : String}

/-- A connection that succeeds was made to the address with its port. -/
theorem connect_ok {h h' : Host} {target : String}
    (ran : connect b token address h = .ok (.ok target) h') : target = withPort address := by
  unfold connect at ran
  obtain ⟨dropped, h₁, -, ran⟩ := Act.ok_of_bind ran
  extract_lets connecting at ran
  have connected {h₁ : Host} (ran : connecting () h₁ = .ok (.ok target) h') :
      target = withPort address := by
    obtain ⟨result, h₂, -, ran⟩ := Act.ok_of_bind ran
    cases result with
    | ok =>
      cases ran
      rfl
    | error e =>
      dsimp only at ran
      split at ran <;> cases ran
  cases dropped with
  | ok => exact connected ran
  | error e =>
    dsimp only at ran
    split at ran
    · cases ran
    · exact connected ran

/-- Connecting issues commands about the address with its port and no other. -/
theorem connect_addresses : Act.Within
    (Adds fun argv => argv = b.argv ["disconnect", withPort address] ∨
      argv = b.argv ["connect", withPort address]) (connect b token address) :=
  (compositional_within tolerant_adds).join
    (within_request (r := .act (.disconnect _)) (.inl rfl))
    (within_request (r := .ask (.connect _)) (.inr rfl))

end connect
end Wireless
/-! ### What a serial is good for -/

open Selection Wireless Host

/-- In a listing of distinct serials every ready device is chosen by its own serial, unless it
covers another: then its serial is ambiguous, between the device and those that it covers. A serial
with a colon covers nothing. A device that is attached by connecting to an address is meant by the
address, by its serial and as a network device, never as one on USB, and its serial is an address
with a port. -/
theorem devices_addressed :
    (∀ devices : List Device, (devices.map (·.serial)).Nodup →
      ∀ d ∈ devices, d.state = "device" →
        ((select devices (.serial d.serial)).1 = .ok { d with selected := true } ↔
          ¬ ∃ other ∈ devices, d.Covers other) ∧
        ((∃ other ∈ devices, d.Covers other) → ∃ candidates,
          (select devices (.serial d.serial)).1 =
            .error (.ambiguous (.serial d.serial) candidates) ∧
          { d with selected := true } ∈ candidates ∧
          ∀ c, c ∈ candidates ↔
            ∃ e ∈ devices, (e = d ∨ d.Covers e) ∧ c = { e with selected := true }) ∧
        (':' ∈ d.serial.toList →
          (select devices (.serial d.serial)).1 = .ok { d with selected := true })) ∧
    ∀ address : String,
      (∀ d : Device, d.serial = withPort address →
        (Selector.serial address).accepts d = true ∧ (Selector.serial d.serial).accepts d = true ∧
        Selector.tcpip.accepts d = true ∧ Selector.usb.accepts d = false ∧
        withPort d.serial = d.serial) ∧
      ∀ (b : Bridge) (token : String),
        (∀ (h h' : Host) (target : String),
          connect b token address h = .ok (.ok target) h' → target = withPort address) ∧
        Act.Within
          (Adds fun argv => argv = b.argv ["disconnect", withPort address] ∨
            argv = b.argv ["connect", withPort address]) (connect b token address) := by
  refine ⟨fun devices distinct d mem ready => ?_, fun address => ⟨fun d attached => ?_,
    fun b token => ⟨fun h h' target => connect_ok, connect_addresses⟩⟩⟩
  · have uncovered := select_uncovered distinct mem ready
    refine ⟨⟨fun chosen several => ?_, uncovered⟩, fun several => ?_, fun colon => ?_⟩
    · obtain ⟨candidates, ambiguous, -⟩ := select_covered distinct mem several
      rw [chosen] at ambiguous
      cases ambiguous
    · obtain ⟨candidates, ambiguous, among⟩ := select_covered distinct mem several
      exact ⟨candidates, ambiguous, (among _).mpr ⟨d, mem, .inl rfl, rfl⟩, among⟩
    · exact uncovered fun ⟨other, listed, plain, shape⟩ => plain colon
  · have colon := colon_mem_serial attached
    have network : Selector.tcpip.accepts d = true := Selector.accepts_iff.mpr (.inr colon)
    have elsewhere : Selector.usb.accepts d = false := by
      rw [← Bool.not_eq_true, Selector.accepts_iff]
      exact fun usb => usb.2 colon
    exact ⟨accepts_address attached, d.accepts_own, network, elsewhere, withPort_of_colon colon⟩

def connecting : Host :=
  { backend := fun _ argv =>
      if argv.contains "connect" then { output := { bytes := "connected to it\n".toUTF8.toList } }
      else {} }

/-- A serial that is the bare address of another device is ambiguous; the other device is chosen by
its serial, and found again after it was connected by its bare address. -/
theorem devices_addressed_bare :
    let bare : Device := ⟨"10.0.0.5", "device", none, false⟩
    let attached : Device := ⟨"10.0.0.5:5555", "device", some "Pixel", true⟩
    (∃ candidates,
      (select [bare, attached] (.serial "10.0.0.5")).1 =
        .error (.ambiguous (.serial "10.0.0.5") candidates) ∧
      { bare with selected := true } ∈ candidates) ∧
    (select [bare, attached] (.serial "10.0.0.5:5555")).1 = .ok attached ∧
    (∃ h', connect {} "work" "10.0.0.5" connecting = .ok (.ok "10.0.0.5:5555") h') ∧
    (Selector.serial "10.0.0.5").accepts attached = true := by
  intro bare attached
  have distinct : ([bare, attached].map (·.serial)).Nodup := by decide
  have covers : bare.Covers attached := ⟨by decide, "5555".toList, by decide⟩
  have ran := Act.of_returned? (m := connect {} "work" "10.0.0.5") (h := connecting)
    (a := .ok "10.0.0.5:5555") (by decide +kernel)
  obtain ⟨-, several, -⟩ := devices_addressed.1 _ distinct bare (by simp) rfl
  obtain ⟨-, -, colon⟩ := devices_addressed.1 _ distinct attached (by simp) rfl
  obtain ⟨candidates, ambiguous, own, -⟩ := several ⟨attached, by simp, covers⟩
  obtain ⟨found, connects⟩ := devices_addressed.2 "10.0.0.5"
  exact ⟨⟨candidates, ambiguous, own⟩, colon (by decide), ⟨_, ran⟩,
    (found attached ((connects {} "work").1 _ _ _ ran)).1⟩

end DebugBridge
