import DebugBridge.Cancel.Escalation
import DebugBridge.CommandLine.Failure
import DebugBridge.CommandLine.Invocation
import DebugBridge.Tunnel.Connection
import DebugBridge.Tunnel.Negotiation

/-!
# Running commands

A command that concerns a device first chooses it: by the selector of the command line if there is
one, else by the configured one. Everything else is addressed to the device that was chosen. A
tunnel that was opened is closed again whatever became of the wait for its connection; closing uses
a token of its own, so that a request to stop the work does not stop it, and the result is that of
the wait.
-/

namespace DebugBridge.CommandLine

open Cancel

def selectorInForce (c : Config) (given? : Option Selector) : Except ConfigError Selector :=
  match given? with
  | some selector => .ok selector
  | none => c.selector

def withDevice (c : Config) (b : Bridge) (given? : Option Selector)
    (f : Device → Act (Except Failure Unit)) : Act (Except Failure Unit) := do
  match selectorInForce c given? with
  | .error e => return .error (.config e)
  | .ok selector =>
    match ← b.choose workToken selector with
    | .error e => return .error (.choice e)
    | .ok device => f device

def runDevices (b : Bridge) : Act (Except Failure Unit) := do
  match ← b.devices workToken with
  | .error e => return .error (.bridge e)
  | .ok devices =>
    if devices.isEmpty then complain "no devices attached"
    (Device.table devices).forM printLine
    return .ok ()

def runIp (b : Bridge) (d : Device) : Act (Except Failure Unit) := do
  match ← b.address workToken d.serial with
  | .error e => return .error (.bridge e)
  | .ok none => return .error (.refused s!"device {d.serial} has no WLAN address")
  | .ok (some address) =>
    printLine address
    return .ok ()

def awaitConnection (settings : Config.TunnelSettings) (t : Tunnel) (direction : Direction) :
    Act (Except TunnelError Nat) := do
  match direction with
  | .reverse => t.accept workToken
  | .forward =>
    t.connect workToken settings.connectAttempts (milliseconds settings.retryDelay.toNat)

def waited (connection : Except TunnelError Nat) : Except Failure Unit :=
  (connection.map fun _ => ()).mapError fun e =>
    .during "waiting for the device connection" (.tunnel e)

/-- Say that the device is connected, and from where if that can be told. -/
def reportConnection (connection : Except TunnelError Nat) : Act Unit := do
  if let .ok stream := connection then
    match ((← get).sockets stream).peer? with
    | some address => printLine s!"device connected from {address.describe}"
    | none => printLine "device connected"

/-- Close the tunnel, whose removal is reported when it fails. The result is that of the wait. -/
def takeDown (b : Bridge) (serial : String) (t : Tunnel) (connection : Except TunnelError Nat) :
    Act (Except Failure Unit) := do
  if let (.ok (.error e), _) ← t.close b teardownToken serial then
    note .error s!"could not remove the tunnel: {e.message}"
  return waited connection

def useTunnel (settings : Config.TunnelSettings) (b : Bridge) (serial : String) (t : Tunnel)
    (direction : Direction) (port : Nat) : Act (Except Failure Unit) := do
  printLine <| s!"tunnel open ({direction.label}) between " ++
    s!"{(Host.Endpoint.loopback port).describe} and {deviceSocket t.socket}"
  let connection ← awaitConnection settings t direction
  reportConnection connection
  takeDown b serial t connection

def runTunnel (settings : Config.TunnelSettings) (b : Bridge) (serial : String) (range : PortRange)
    (forceForward : Bool) : Act (Except Failure Unit) := do
  let closed : Tunnel := { socket := settings.socketName }
  let (opened, t) ← closed.establish b workToken serial range forceForward
  match opened, t.direction?, t.port? with
  | .ok (.error e), _, _ => return .error (.tunnel e)
  | .ok (.ok ()), some direction, some port => useTunnel settings b serial t direction port
  | _, _, _ => return .error (.refused "tunnel reported open without a port")

/-- Switch a device on USB to the network and connect to it. -/
def runTcpip (b : Bridge) (port : Nat) (d : Device) : Act (Except Failure Unit) := do
  if d.attachment ≠ .usb then
    printLine d.serial
    note .info s!"{d.serial} is not a USB device, nothing to switch"
    return .ok ()
  match ← Wireless.enable b workToken d.serial port Wireless.pollInterval with
  | .error e => return .error (.wireless e)
  | .ok address =>
    match ← Wireless.connect b workToken address with
    | .error e => return .error (.wireless e)
    | .ok connected =>
      printLine connected
      return .ok ()

def Command.run (c : Config) (b : Bridge) : Command → Act (Except Failure Unit)
  | .devices => runDevices b
  | .select given? => withDevice c b given? fun d => do
    printLine d.serial
    return .ok ()
  | .ip given? => withDevice c b given? (runIp b)
  | .tunnel given? range? forceForward => do
    match range?.elim c.portRange .ok with
    | .error e => return .error (.config e)
    | .ok range =>
      withDevice c b given? fun d =>
        runTunnel c.tunnel b d.serial range (forceForward || c.tunnel.forceForward)
  | .tcpip given? port => withDevice c b given? (runTcpip b port)
  | .serialno => do
    match ← b.serialNumber workToken with
    | .error e => return .error (.bridge e)
    | .ok serial =>
      printLine serial
      return .ok ()
  | .shell given? words => withDevice c b given? fun d => do
    return (← b.act workToken (.shell d.serial words)).mapError .bridge

end DebugBridge.CommandLine
