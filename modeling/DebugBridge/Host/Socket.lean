import DebugBridge.Fault
import DebugBridge.Process.Capture

/-!
# Sockets

A socket is unconnected, listens, or is one end of a stream. What has arrived at an end can still be
read after the other end has gone, and what was left unread at the other end is reported once as a
reset; only then does the stream end. Shutting an end down shuts both directions for both ends. A
peer who connects, or is connected to, says something and stays or goes.
-/

namespace DebugBridge.Host

inductive Endpoint where
  | loopback (port : Nat)
  /-- An address that cannot be named. -/
  | unspecified
  deriving DecidableEq, Repr

def Endpoint.describe : Endpoint → String
  | .loopback port => s!"127.0.0.1:{port}"
  | .unspecified => "0.0.0.0:0"

def Endpoint.port? : Endpoint → Option Nat
  | .loopback port => some port
  | .unspecified => none

/-- Somebody at the other end of a new connection: the address, where it can be told, what is said
at once, and whether the connection stays open after that. -/
structure Peer where
  address? : Option Endpoint := none
  said : List UInt8 := []
  stays : Bool := true
  deriving DecidableEq, Repr

structure Listener where
  endpoint : Endpoint
  listening : Bool := true
  /-- The streams that wait to be accepted, first come first. -/
  waiting : List Nat := []
  deriving DecidableEq, Repr

def Listener.port? (l : Listener) : Option Nat :=
  if l.listening then l.endpoint.port? else none

structure Stream where
  /-- The socket of the other end. -/
  peer : Nat
  address? : Option Endpoint := none
  /-- What has arrived and was not read. -/
  inbox : List UInt8 := []
  readShut : Bool := false
  writeShut : Bool := false
  /-- The other end went away without reading all it was sent. -/
  reset : Bool := false
  closed : Bool := false
  deriving DecidableEq, Repr

inductive Socket where
  | unconnected
  | listener (l : Listener)
  | stream (s : Stream)
  deriving DecidableEq, Repr

def Socket.endpoint : Socket → Endpoint
  | .listener l => l.endpoint
  | _ => .unspecified

/-- The address of the other end, where it can be told. -/
def Socket.peer? : Socket → Option Endpoint
  | .stream s => s.address?
  | _ => none

def Socket.listensOn (port : Nat) : Socket → Bool
  | .listener l => l.listening && l.endpoint = .loopback port
  | _ => false

namespace Stream

/-- How many bytes may wait at one end. -/
def capacity : Nat := 212992

def shut (s : Stream) : Stream := { s with readShut := true, writeShut := true }

def isReadable (s : Stream) : Bool := !s.inbox.isEmpty || s.reset || s.readShut

def read (max : Nat) (s : Stream) : Except Fault (List UInt8) × Stream :=
  if !s.inbox.isEmpty then (.ok (s.inbox.take max), { s with inbox := s.inbox.drop max })
  else if s.reset then (.error .connectionReset, { s with reset := false })
  else (.ok [], s)

/-- An end after the other end was closed; `unread` says whether bytes were left there. -/
def peerClosed (unread : Bool) (s : Stream) : Stream :=
  { s.shut with reset := s.reset || unread }

end Stream
end DebugBridge.Host
