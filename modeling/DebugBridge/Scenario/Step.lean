import DebugBridge.Choice
import DebugBridge.Tunnel.Negotiation
import DebugBridge.Wireless

/-!
# Steps of a scenario

A scenario is a list of steps that name their tunnels, sockets and children. Each step gives a value
or a failure. A step that needs two ends of a connection over TCP is impossible, for want of a
network, and so is a step about something that does not exist.
-/

namespace DebugBridge.Scenario

inductive Staged where
  | running
  | ended (outcome : Outcome)
  deriving DecidableEq, Repr

inductive Armament where
  /-- A socket that is not connected. -/
  | unconnected
  /-- One end of a stream. -/
  | pair
  deriving DecidableEq, Repr

inductive Step where
  | action (a : Action)
  | connect (address : String)
  | property (serial name : String)
  | serialNumber
  | executable
  | devices
  | address (serial : String)
  | choose (selector : Selector)
  | enable (serial : String) (port interval : Nat)
  | join (address : String)
  | tunnelNew (tunnel socket : String)
  | tunnelState (tunnel : String)
  | tunnelOpen (tunnel serial : String) (range : PortRange) (forceForward : Bool)
  | tunnelClose (tunnel serial : String)
  | tunnelAccept (tunnel name : String)
  | tunnelConnect (tunnel name : String) (attempts delay : Nat)
  /-- A step about a tunnel that needs a network. -/
  | tunnelUnreachable (tunnel : String)
  | take (port : Nat)
  | release (port : Nat)
  | portFree (port : Nat)
  | listen (name : String) (port : Nat)
  | listenerPort (name : String)
  | closeListener (name : String)
  | netConnect (port : Nat)
  | loopback (port : Nat)
  | localListen (name : String)
  | localDial (listener name : String)
  | accept (listener name : String)
  | pair (name : String)
  | receive (name : String) (max : Nat)
  | send (name : String) (bytes : List UInt8) (times : Nat)
  | peerSend (name : String) (bytes : List UInt8)
  | peerReceive (name : String) (max : Nat)
  | peerClose (name : String)
  | peerShutdown (name : String)
  | interrupt
  | disarm
  | isInterrupted
  | sleep (duration : Nat)
  | armProcess (name : String) (child : Staged)
  | child (name : String) (running : Bool)
  | killChild (name : String)
  | armSocket (name : String) (kind : Armament)
  | socketShut (name : String)
  /-- A step that needs a network. -/
  | unreachable
  deriving DecidableEq, Repr

def Step.tunnel? : Step → Option String
  | .tunnelNew tunnel _ | .tunnelState tunnel | .tunnelOpen tunnel .. | .tunnelClose tunnel _
  | .tunnelAccept tunnel _ | .tunnelConnect tunnel .. | .tunnelUnreachable tunnel => some tunnel
  | _ => none

inductive Value where
  | nothing
  | flag (b : Bool)
  | text (s : String)
  | optionalText (s? : Option String)
  | port (port? : Option Nat)
  | bytes (bs : List UInt8)
  | device (d : Device)
  | devices (ds : List Device)
  /-- Whether a child was killed, and its outcome unless it runs. -/
  | child (killed : Bool) (outcome? : Option Outcome)
  deriving DecidableEq, Repr

inductive Failure where
  | bridge (cause : BridgeError)
  | choice (cause : ChoiceError)
  | wireless (cause : WirelessError)
  | tunnel (cause : TunnelError)
  | net (cause : NetError)
  | misuse (cause : Misuse)
  | impossible
  deriving DecidableEq, Repr

end DebugBridge.Scenario
