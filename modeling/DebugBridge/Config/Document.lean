import DebugBridge.Config.Basic
import DebugBridge.Toml.Part

/-!
# The configuration as a document

A document overlays the standard settings: a setting that it does not name keeps its standard value,
and what it names besides is passed over. A setting must have the kind and the range of its value. A
section may also be given by position, as an array of its settings in their order, and a moment in
the place of a section names no settings at all. How documents are read and written is left to a
codec.
-/

namespace DebugBridge.Config

open Toml

abbrev Section := String → Option Node

def section? (order : List String) : Node → Option Section
  | .table _ es => some fun name => Entries.find? name.toList es
  | .array items => some fun name => (order.idxOf? name).bind (items[·]?)
  | .tables items => some fun name =>
    (order.idxOf? name).bind fun i => (items[i]?).map (.table .defined ·)
  | .moment _ => some fun _ => none
  | _ => none

def text? : Node → Option String
  | .text s => some (String.ofList s)
  | _ => none

def flag? : Node → Option Bool
  | .flag b => some b
  | _ => none

def natural? (max : Nat) : Node → Option Nat
  | .integer n => if 0 ≤ n ∧ n ≤ max then some n.toNat else none
  | _ => none

def setting? {α : Type} (read : Node → Option α) (standard : α) : Option Node → Option α
  | none => some standard
  | some n => read n

def general? (n : Node) : Option General := do
  let s ← section? ["log_level"] n
  let standard : General := {}
  return { logLevel := ← setting? text? standard.logLevel (s "log_level") }

def bridge? (n : Node) : Option BridgeSettings := do
  let s ← section? ["executable"] n
  return { executable? := ← setting? (fun n => (text? n).map some) none (s "executable") }

def tunnel? (n : Node) : Option TunnelSettings := do
  let s ← section?
    ["port_range", "force_forward", "socket_name", "connect_attempts", "connect_retry_delay_ms"] n
  let standard : TunnelSettings := {}
  let portRange ← setting? text? standard.portRange (s "port_range")
  let forceForward ← setting? flag? standard.forceForward (s "force_forward")
  let socketName ← setting? text? standard.socketName (s "socket_name")
  let connectAttempts ← setting? (fun n => (natural? (UInt32.size - 1) n).map UInt32.ofNat)
    standard.connectAttempts (s "connect_attempts")
  let retryDelay ← setting? (fun n => (natural? (UInt64.size - 1) n).map UInt64.ofNat)
    standard.retryDelay (s "connect_retry_delay_ms")
  return ⟨portRange, forceForward, socketName, connectAttempts, retryDelay⟩

def device? (n : Node) : Option DeviceSettings := do
  let s ← section? ["serial", "select_usb", "select_tcpip"] n
  let serial? ← setting? (fun n => (text? n).map some) none (s "serial")
  let usb ← setting? flag? false (s "select_usb")
  let tcpip ← setting? flag? false (s "select_tcpip")
  return ⟨serial?, usb, tcpip⟩

def ofEntries? (es : Entries) : Option Config := do
  let general ← setting? general? {} (Entries.find? "general".toList es)
  let bridge ← setting? bridge? {} (Entries.find? "bridge".toList es)
  let tunnel ← setting? tunnel? {} (Entries.find? "tunnel".toList es)
  let device ← setting? device? {} (Entries.find? "device".toList es)
  return ⟨general, bridge, tunnel, device⟩

/-- The configuration that a document gives. Its port range has to be one. -/
def ofDocument (codec : Codec) (document : String) : Except ConfigError Config :=
  match (codec.read document).bind ofEntries? with
  | none => .error .malformed
  | some c => c.portRange.map fun _ => c

def optional (key : String) : Option String → List Setting
  | none => []
  | some s => [⟨key, .text s⟩]

def General.part (g : General) : Part := ⟨"general", [⟨"log_level", .text g.logLevel⟩]⟩

def BridgeSettings.part (b : BridgeSettings) : Part :=
  ⟨"bridge", optional "executable" b.executable?⟩

def TunnelSettings.part (t : TunnelSettings) : Part :=
  ⟨"tunnel",
    [⟨"port_range", .text t.portRange⟩, ⟨"force_forward", .flag t.forceForward⟩,
      ⟨"socket_name", .text t.socketName⟩, ⟨"connect_attempts", .number t.connectAttempts.toNat⟩,
      ⟨"connect_retry_delay_ms", .number t.retryDelay.toNat⟩]⟩

def DeviceSettings.part (d : DeviceSettings) : Part :=
  ⟨"device",
    optional "serial" d.serial? ++ [⟨"select_usb", .flag d.usb⟩, ⟨"select_tcpip", .flag d.tcpip⟩]⟩

def parts (c : Config) : List Part :=
  [c.general.part, c.bridge.part, c.tunnel.part, c.device.part]

end DebugBridge.Config
