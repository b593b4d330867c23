import DebugBridge.Bridge.Error
import DebugBridge.Host.Net
import DebugBridge.PortRange

/-!
# Tunnels

A tunnel joins a loopback port to a socket of the device. In reverse direction the device connects
to a socket that this side listens on; in forward direction this side connects to a port that the
bridge listens on. A tunnel keeps track of this in fields of their own; that they agree is a fact
about what is done with it.
-/

namespace DebugBridge

/-- Which side of a tunnel connects. -/
inductive Direction where
  | reverse
  | forward
  deriving DecidableEq, Repr

/-- The name of a direction in messages to the user. -/
def Direction.label : Direction → String
  | .reverse => "Reverse"
  | .forward => "Forward"

def Direction.command : Direction → String
  | .reverse => "reverse"
  | .forward => "forward"

/-- What a negotiation found. -/
inductive Passage where
  /-- Connections from the device arrive at `listener`. -/
  | reverse (port listener : Nat)
  | forward (port : Nat)
  deriving DecidableEq, Repr

/-- A tunnel to an abstract socket of the device. Its direction and its port say something only
while it is enabled. -/
structure Tunnel where
  socket : String
  enabled : Bool := false
  direction : Direction := .reverse
  /-- The socket that it owns. -/
  listener? : Option Nat := none
  localPort : Nat := 0
  deriving DecidableEq, Repr

namespace Tunnel

def direction? (t : Tunnel) : Option Direction := if t.enabled then some t.direction else none

def port? (t : Tunnel) : Option Nat := if t.enabled then some t.localPort else none

def through (t : Tunnel) : Passage → Tunnel
  | .reverse port listener =>
    { t with
      enabled := true, direction := .reverse, listener? := some listener, localPort := port }
  | .forward port =>
    { t with enabled := true, direction := .forward, listener? := none, localPort := port }

end Tunnel

inductive TunnelError where
  | portRangeExhausted (range : PortRange)
  | interrupted
  | notReverse
  | notForward
  /-- The connection was closed before the device said anything. -/
  | noGreeting
  | net (cause : NetError)
  deriving DecidableEq, Repr

namespace TunnelError

/-- A failed socket call in the words of a tunnel: an interrupt stays an interrupt. -/
def ofNet : NetError → TunnelError
  | .interrupted => .interrupted
  | e => .net e

def message : TunnelError → String
  | .portRangeExhausted range => s!"could not open a tunnel on any port of {range.describe}"
  | .interrupted => "tunnel negotiation interrupted"
  | .notReverse => "the tunnel is not an open reverse tunnel"
  | .notForward => "the tunnel is not an open forward tunnel"
  | .noGreeting => "the device side closed the connection without a greeting"
  | .net cause => s!"tunnel socket error: {cause.message}"

def isInterrupted : TunnelError → Bool
  | .interrupted => true
  | _ => false

end TunnelError

inductive Misuse where
  | alreadyOpen
  | notOpen
  deriving DecidableEq, Repr

def Misuse.message : Misuse → String
  | .alreadyOpen => "tunnel is already open"
  | .notOpen => "tunnel is not open"

end DebugBridge
