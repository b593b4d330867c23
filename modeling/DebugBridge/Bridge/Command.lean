import DebugBridge.Host.State

/-!
# Bridge commands

An action is run for its effect and succeeds exactly when it exits with zero. A query is run for its
output, of which only so much is kept. Both name the device they are about, unless they are about
none.
-/

namespace DebugBridge

/-- A bridge command that is run for its effect. -/
inductive Action where
  /-- Connections to a port of this host reach a socket of the device. -/
  | forward (serial : String) (port : Nat) (socket : String)
  | forwardRemove (serial : String) (port : Nat)
  /-- Connections to a socket of the device reach a port of this host. -/
  | reverse (serial socket : String) (port : Nat)
  | reverseRemove (serial socket : String)
  | push (serial source target : String)
  | install (serial package : String)
  | shell (serial : String) (command : List String)
  /-- The device's daemon restarts and listens on a port of the network. -/
  | tcpip (serial : String) (port : Nat)
  | disconnect (address : String)
  deriving DecidableEq, Repr

/-- A bridge command that is run for its output. -/
inductive Query where
  | connect (address : String)
  | property (serial name : String)
  | serialNumber
  | devices
  | route (serial : String)
  deriving DecidableEq, Repr

/-- What happens to an output that is larger than its limit. -/
inductive Excess where
  | refuse
  /-- Only the head counts. -/
  | cut
  deriving DecidableEq, Repr

def hostPort (port : Nat) : String := s!"tcp:{port}"

def deviceSocket (socket : String) : String := s!"localabstract:{socket}"

def onDevice (serial : String) (arguments : List String) : List String :=
  "-s" :: serial :: arguments

namespace Action

def name : Action → String
  | .forward .. => "forward"
  | .forwardRemove .. => "forward --remove"
  | .reverse .. => "reverse"
  | .reverseRemove .. => "reverse --remove"
  | .push .. => "push"
  | .install .. => "install"
  | .shell .. => "shell"
  | .tcpip .. => "tcpip"
  | .disconnect .. => "disconnect"

def arguments : Action → List String
  | .forward serial port socket =>
    onDevice serial ["forward", hostPort port, deviceSocket socket]
  | .forwardRemove serial port => onDevice serial ["forward", "--remove", hostPort port]
  | .reverse serial socket port =>
    onDevice serial ["reverse", deviceSocket socket, hostPort port]
  | .reverseRemove serial socket => onDevice serial ["reverse", "--remove", deviceSocket socket]
  | .push serial source target => onDevice serial ["push", source, target]
  | .install serial package => onDevice serial ["install", "-r", package]
  | .shell serial command => onDevice serial ("shell" :: command)
  | .tcpip serial port => onDevice serial ["tcpip", toString port]
  | .disconnect address => ["disconnect", address]

/-- Only disconnecting is silent: it fails whenever there was no connection. -/
def mode : Action → Mode
  | .disconnect _ => .quiet
  | _ => .run

end Action

namespace Query

def name : Query → String
  | .connect _ => "connect"
  | .property .. => "getprop"
  | .serialNumber => "get-serialno"
  | .devices => "devices"
  | .route _ => "ip route"

def arguments : Query → List String
  | .connect address => ["connect", address]
  | .property serial name => onDevice serial ["shell", "getprop", name]
  | .serialNumber => ["get-serialno"]
  | .devices => ["devices", "-l"]
  | .route serial => onDevice serial ["shell", "ip", "route"]

def limit : Query → Nat
  | .devices => 65536
  | .route _ => 4096
  | _ => 128

/-- A table that is not whole is worthless; of a single value the head is enough. -/
def excess : Query → Excess
  | .devices | .route _ => .refuse
  | _ => .cut

end Query
end DebugBridge
