import DebugBridge.Bridge.Answers
import DebugBridge.Text.Quoted

/-!
# Devices on the network

A device on USB is told to listen on a network port, which restarts its daemon; then its address is
read from its routing table. Connecting to an address first drops whatever connection to it is
stale.
-/

namespace DebugBridge

/-- Why a device could not be switched or connected. -/
inductive WirelessError where
  | bridge (cause : BridgeError)
  | noAddress (serial : String)
  | restartTimeout (serial : String) (port : Nat)
  | interrupted
  deriving DecidableEq, Repr

namespace WirelessError

def message : WirelessError → String
  | .bridge cause => cause.message
  | .noAddress serial =>
    s!"could not find the IP address of device {serial}; is it connected to Wi-Fi?"
  | .restartTimeout serial port =>
    s!"device {serial} did not restart in TCP/IP mode on port {port}"
  | .interrupted => "TCP/IP switch interrupted"

def isInterrupted : WirelessError → Bool
  | .interrupted => true
  | .bridge cause => cause.isInterrupted
  | _ => false

end WirelessError

namespace Wireless

def standardPort : Nat := 5555

def portProperty : String := "service.adb.tcp.port"

/-- How often the port is asked for after a restart. -/
def pollAttempts : Nat := 40

/-- Microseconds between two polls. -/
def pollInterval : Nat := milliseconds 250

def withPort (address : String) : String :=
  if ':' ∈ address.toList then address else s!"{address}:{standardPort}"

/-- Ask for the port until it is the wanted one; `left` polls are left. -/
def awaitPort (b : Bridge) (token serial : String) (port interval : Nat) :
    Nat → Act (Except WirelessError Unit)
  | 0 => return .error (.restartTimeout serial port)
  | left + 1 => do
    if ← sleep token interval then
      let attempt := pollAttempts - left
      match ← b.property token serial portProperty with
      | .ok value =>
        if value = toString port then return .ok ()
        note .debug s!"attempt {attempt}: tcp port is {Text.quoted value}"
      | .error e =>
        if e.isInterrupted then return .error .interrupted
        note .debug s!"attempt {attempt}: {e.message}"
      awaitPort b token serial port interval left
    else return .error .interrupted

/-- Bring the daemon of a device to a network port, unless it is there already. -/
def ensurePort (b : Bridge) (token serial : String) (port interval : Nat) :
    Act (Except WirelessError Unit) := do
  match ← b.property token serial portProperty with
  | .error e => return .error (.bridge e)
  | .ok current =>
    if current = toString port then
      note .info s!"TCP/IP mode already enabled on port {port}"
      return .ok ()
    note .info s!"enabling TCP/IP mode on port {port}"
    match ← b.act token (.tcpip serial port) with
    | .error e => return .error (.bridge e)
    | .ok () => awaitPort b token serial port interval pollAttempts

/-- Switch a device on USB to the network: the address it can be connected to. -/
def enable (b : Bridge) (token serial : String) (port interval : Nat) :
    Act (Except WirelessError String) := do
  match ← ensurePort b token serial port interval with
  | .error e => return .error e
  | .ok () =>
    match ← b.address token serial with
    | .error e => return .error (.bridge e)
    | .ok none => return .error (.noAddress serial)
    | .ok (some address) => return .ok s!"{address}:{port}"

/-- Connect to a device over the network: the address with its port. -/
def connect (b : Bridge) (token address : String) : Act (Except WirelessError String) := do
  let target := withPort address
  if let .error e ← b.act token (.disconnect target) then
    if e.isInterrupted then return .error .interrupted
    note .debug s!"adb disconnect {target} failed (ignored): {e.message}"
  match ← b.connect token target with
  | .ok () =>
    note .info s!"connected to {target}"
    return .ok target
  | .error e =>
    if !e.isInterrupted then note .warn s!"could not connect to {target}: {e.message}"
    return .error (.bridge e)

end Wireless
end DebugBridge
