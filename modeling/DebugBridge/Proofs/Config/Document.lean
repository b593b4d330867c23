import DebugBridge.Config.Document
import DebugBridge.Proofs.Toml.Sections

/-!
# The document of a configuration

A faithful codec writes a configuration unless its delay is too large, and what it wrote gives the
configuration back: every setting that is written is read as itself, and one that is not written has
no value.
-/

namespace DebugBridge.Config

open Toml

/-! ### Names -/

theorem wellNamed_of_keys {name : String} {settings : List Setting} (keys : List String)
    (same : settings.map (·.key) = keys) (bare : ∀ key ∈ name :: keys, IsBare key)
    (distinct : keys.Nodup) : Part.WellNamed ⟨name, settings⟩ := by
  obtain ⟨named, bare⟩ := List.forall_mem_cons.mp bare
  rw [← same] at bare distinct
  exact ⟨named, List.forall_mem_map.mp bare, distinct⟩

theorem wellNamed_general (g : General) : g.part.WellNamed :=
  wellNamed_of_keys ["log_level"] rfl (by decide) (by decide)

theorem wellNamed_bridge (b : BridgeSettings) : b.part.WellNamed := by
  rcases b with ⟨- | executable⟩
  · exact wellNamed_of_keys [] rfl (by decide) (by decide)
  · exact wellNamed_of_keys ["executable"] rfl (by decide) (by decide)

theorem wellNamed_tunnel (t : TunnelSettings) : t.part.WellNamed :=
  wellNamed_of_keys ["port_range", "force_forward", "socket_name", "connect_attempts",
    "connect_retry_delay_ms"] rfl (by decide) (by decide)

theorem wellNamed_device (d : DeviceSettings) : d.part.WellNamed := by
  rcases d with ⟨- | serial, usb, tcpip⟩
  · exact wellNamed_of_keys ["select_usb", "select_tcpip"] rfl (by decide) (by decide)
  · exact wellNamed_of_keys ["serial", "select_usb", "select_tcpip"] rfl (by decide)
      (by decide)

theorem wellNamed_parts (c : Config) : WellNamed c.parts where
  each := by
    simp only [parts, List.forall_mem_cons]
    exact ⟨wellNamed_general _, wellNamed_bridge _, wellNamed_tunnel _, wellNamed_device _,
      List.forall_mem_nil _⟩
  distinct := by simp [parts, General.part, BridgeSettings.part, TunnelSettings.part,
    DeviceSettings.part]

/-! ### Values -/

theorem isWritable_optional (key : String) (value? : Option String) :
    (optional key value?).all (·.value.isWritable) = true := by
  cases value? <;> rfl

/-- The delay alone decides whether a configuration can be written. -/
theorem isWritable_parts (c : Config) :
    c.parts.all (·.isWritable) = decide (c.tunnel.retryDelay.toNat < integerBound) := by
  have attempts : c.tunnel.connectAttempts.toNat < integerBound := by
    have := c.tunnel.connectAttempts.toNat_lt
    unfold integerBound
    omega
  simp only [parts, Part.isWritable, General.part, BridgeSettings.part, TunnelSettings.part,
    DeviceSettings.part, isWritable_optional, List.all_cons, List.all_nil, List.all_append]
  simp [Value.isWritable, attempts]

theorem section?_table (order : List String) (p : Part) : section? order p.table =
    some fun key => (p.settings.find? (·.key = key)).map (·.value.node) := by
  simp only [section?, Part.table, find?_settings]

theorem natural?_toNat {max n : Nat} (small : n ≤ max) : natural? max (.integer n) = some n := by
  have range : 0 ≤ (n : Int) ∧ (n : Int) ≤ max := by omega
  exact if_pos range

theorem general?_table (g : General) : general? g.part.table = some g := by
  simp [general?, section?_table, General.part, setting?, text?, Value.node]

theorem bridge?_table (b : BridgeSettings) : bridge? b.part.table = some b := by
  rcases b with ⟨- | executable⟩ <;>
    simp [bridge?, section?_table, BridgeSettings.part, optional, setting?, text?, Value.node]

theorem tunnel?_table (t : TunnelSettings) : tunnel? t.part.table = some t := by
  have count : t.connectAttempts.toNat ≤ 4294967295 := Nat.le_of_lt_succ t.connectAttempts.toNat_lt
  have time : t.retryDelay.toNat ≤ 18446744073709551615 := Nat.le_of_lt_succ t.retryDelay.toNat_lt
  simp [tunnel?, section?_table, TunnelSettings.part, setting?, text?, flag?, Value.node,
    natural?_toNat, count, time]

theorem device?_table (d : DeviceSettings) : device? d.part.table = some d := by
  rcases d with ⟨- | serial, usb, tcpip⟩ <;>
    simp [device?, section?_table, DeviceSettings.part, optional, setting?, text?, flag?,
      Value.node]

/-- The tree of a configuration's sections gives the configuration. -/
theorem ofEntries?_parts (c : Config) : ofEntries? (c.parts.map Part.entry) = some c := by
  have general : c.parts.find? (·.name = "general") = some c.general.part := by
    simp [parts, General.part]
  have bridge : c.parts.find? (·.name = "bridge") = some c.bridge.part := by
    simp [parts, General.part, BridgeSettings.part]
  have tunnel : c.parts.find? (·.name = "tunnel") = some c.tunnel.part := by
    simp [parts, General.part, BridgeSettings.part, TunnelSettings.part]
  have device : c.parts.find? (·.name = "device") = some c.device.part := by
    simp [parts, General.part, BridgeSettings.part, TunnelSettings.part, DeviceSettings.part]
  simp only [ofEntries?, find?_parts, general, bridge, tunnel, device, Option.map_some, setting?,
    general?_table, bridge?_table, tunnel?_table, device?_table]
  rfl

/-! ### The document -/

section document
variable {codec : Codec} {c : Config}

theorem write_large (faithful : codec.Faithful)
    (large : integerBound ≤ c.tunnel.retryDelay.toNat) : codec.write c.parts = none :=
  faithful.refuses _ (wellNamed_parts c) <| by
    rw [isWritable_parts, decide_eq_false (Nat.not_lt.mpr large)]

/-- A document gives back the configuration that it was written for, if its port range is one. -/
theorem ofDocument_write (faithful : codec.Faithful)
    (small : c.tunnel.retryDelay.toNat < integerBound) :
    ∃ document, codec.write c.parts = some document ∧
      ofDocument codec document = c.portRange.map fun _ => c := by
  obtain ⟨document, written, read⟩ := faithful.recovers _ (wellNamed_parts c) <| by
    rw [isWritable_parts, decide_eq_true small]
  exact ⟨document, written, by rw [ofDocument, read, Option.bind_some, ofEntries?_parts]⟩

end document
end DebugBridge.Config
