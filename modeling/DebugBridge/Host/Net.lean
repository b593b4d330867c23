import DebugBridge.Host.Time

/-!
# Interruptible socket calls

Every call that can block runs with a second handle to its socket armed in the caller's token. What
happens to the call is its own result when it completed; a failure after an interrupt, and an empty
read after one, count as the interrupt. What has to be asked of the system before the token is armed
may be refused, and then the token is not even looked at. Only loopback endpoints are used, and the
host decides who connects and what comes of connecting.
-/

namespace DebugBridge

open Cancel Host

/-- Why a socket call gave no result. -/
inductive NetError where
  | interrupted
  | io (operation : String) (endpoint : Endpoint) (cause : Fault)
  deriving DecidableEq, Repr

def NetError.message : NetError → String
  | .interrupted => "socket operation interrupted"
  | .io operation endpoint cause =>
    s!"could not {operation} {endpoint.describe}: {cause.message}"

namespace Host

/-- The answer to the next request for a socket, for an option of one or for a second handle. -/
def answer (h : Host) : Option Fault × Host :=
  (h.supply.headD none, { h with supply := h.supply.drop 1 })

end Host

/-- Ask the system for something that a call needs before its socket can be armed. -/
def request (operation : String) (endpoint : Endpoint) : Act (Except NetError Unit) := do
  match ← modifyGet Host.answer with
  | none => return .ok ()
  | some cause => return .error (.io operation endpoint cause)

def runArmed {α : Type} (token : String) (socket : Nat) (operation : String) (endpoint : Endpoint)
    (call : Act (Except Fault α)) : Act (Except NetError α) := do
  if ← arm token (.socket socket) then
    let result ← call
    disarm token
    match result with
    | .ok value => return .ok value
    | .error cause =>
      if ← isInterrupted token then return .error .interrupted
      else return .error (.io operation endpoint cause)
  else return .error .interrupted

/-- Run a call with a second handle to its socket armed. -/
def armed {α : Type} (token : String) (socket : Nat) (operation : String) (endpoint : Endpoint)
    (call : Act (Except Fault α)) : Act (Except NetError α) := do
  match ← request operation endpoint with
  | .error e => return .error e
  | .ok () => runArmed token socket operation endpoint call

namespace Host

def firstEphemeral : Nat := 32768

/-- A port that nobody listens on, for a socket that asked for none. -/
def ephemeralPort? (h : Host) : Option Nat :=
  (List.range' firstEphemeral (65536 - firstEphemeral)).find? fun p => !h.isListening p

/-- The port that a socket gets when it asks for one, unless it gets none. -/
def grantedPort? (port : Nat) (h : Host) : Option Nat :=
  if port = 0 then h.ephemeralPort?
  else if h.isListening port then none
  else some port

def bindTo (socket port : Nat) (h : Host) : Except Fault Unit × Host :=
  match h.grantedPort? port with
  | none => (.error .addressInUse, h)
  | some granted =>
    (.ok (), h.updateSocket socket fun _ => .listener { endpoint := .loopback granted })

def isReadable (socket : Nat) (h : Host) : Bool :=
  match h.sockets socket with
  | .stream s => s.isReadable
  | _ => true

def readFrom (socket max : Nat) (h : Host) : Except Fault (List UInt8) × Host :=
  match h.sockets socket with
  | .stream s =>
    let (result, s) := s.read max
    (result, h.updateSocket socket fun _ => .stream s)
  | _ => (.error .notConnected, h)

/-- Whether nothing can be written to a socket any more. -/
def isBroken (socket : Nat) (h : Host) : Bool :=
  match h.sockets socket with
  | .stream s => s.writeShut || match h.sockets s.peer with
    | .stream p => p.closed || p.readShut
    | _ => true
  | _ => true

def room (socket : Nat) (h : Host) : Nat :=
  match h.sockets socket with
  | .stream s => match h.sockets s.peer with
    | .stream p => Stream.capacity - p.inbox.length
    | _ => 0
  | _ => 0

/-- Bytes arrive at the other end of a socket. -/
def deliver (socket : Nat) (bytes : List UInt8) (h : Host) : Host :=
  match h.sockets socket with
  | .stream s => h.updateStream s.peer fun p => { p with inbox := p.inbox ++ bytes }
  | _ => h

def closeStream (socket : Nat) (h : Host) : Host :=
  match h.sockets socket with
  | .stream s =>
    if s.closed then h
    else (h.updateStream socket fun s => { s with closed := true, inbox := [] }).updateStream s.peer
      (Stream.peerClosed !s.inbox.isEmpty)
  | _ => h

/-- An unconnected socket becomes one end of a stream. -/
def link (socket far : Nat) (address? : Option Endpoint) : Host → Host :=
  updateSocket socket fun
    | .unconnected => .stream { peer := far, address? := address? }
    | other => other

def meet (socket : Nat) (p : Peer) (h : Host) : Host :=
  let (far, h) := h.addSocket (.stream { peer := socket })
  let met := (h.link socket far p.address?).deliver far p.said
  if p.stays then met else met.closeStream far

/-- A visitor connects to a listener where nobody waits, unless that fails. -/
def receive (l : Listener) (h : Host) : Except Fault Nat × Host :=
  match l.port?.map fun port => (port, h.visitors port) with
  | some (port, visitor :: later) =>
    let h := { h with visitors := assign h.visitors port later }
    match visitor with
    | .error cause => (.error cause, h)
    | .ok peer =>
      let (stream, h) := h.addSocket .unconnected
      (.ok stream, h.meet stream peer)
  | _ => (.error .invalidArgument, h)

def takeWaiting (listener : Nat) (h : Host) : Except Fault Nat × Host :=
  match h.sockets listener with
  | .listener l =>
    match l.waiting with
    | stream :: waiting =>
      (.ok stream, h.updateSocket listener fun _ => .listener { l with waiting := waiting })
    | [] => h.receive l
  | _ => (.error .invalidArgument, h)

def isAcceptable (listener : Nat) (h : Host) : Bool :=
  match h.sockets listener with
  | .listener l =>
    !l.waiting.isEmpty || !l.listening || l.port?.any fun port => !(h.visitors port).isEmpty
  | _ => true

def shutWriting (socket : Nat) (h : Host) : Host :=
  match h.sockets socket with
  | .stream s => (h.updateStream socket fun s => { s with writeShut := true }).updateStream s.peer
      fun p => { p with readShut := true }
  | _ => h

def isAtEnd (socket : Nat) (h : Host) : Bool :=
  match h.sockets socket with
  | .stream s => s.inbox.isEmpty && !s.reset && s.readShut
  | _ => false

/-- A stream that waits at a listener is closed without being read. -/
def closeWaiting (h : Host) (stream : Nat) : Host :=
  match h.sockets stream with
  | .stream s =>
    (h.updateStream stream fun s => { s with closed := true }).updateStream s.peer
      (Stream.peerClosed true)
  | _ => h

/-- Close a socket. The streams that wait at a listener are closed with it. -/
def closeSocket (socket : Nat) (h : Host) : Host :=
  match h.sockets socket with
  | .listener l => l.waiting.foldl closeWaiting (h.updateSocket socket fun _ => .unconnected)
  | .stream _ => h.closeStream socket
  | .unconnected => h

def addStream (h : Host) : (Nat × Nat) × Host :=
  let near := h.socketCount
  let far := h.socketCount + 1
  let (_, h) := h.addSocket (.stream { peer := far })
  let (_, h) := h.addSocket (.stream { peer := near })
  ((near, far), h)

end Host

namespace Net

/-- Bind a socket and listen; the strikes of this moment happen while it is armed. -/
def claimPort (socket port : Nat) : Act (Except Fault Unit) := do
  let result ← modifyGet (Host.bindTo socket port)
  modify fun h => h.strike h.commands.length .listen
  return result

def create (endpoint : Endpoint) : Act (Except NetError Nat) := do
  match ← request "create socket for" endpoint with
  | .error e => return .error e
  | .ok () => return .ok (← modifyGet (Host.addSocket .unconnected))

/-- Create a socket whose port may be one that was in use a short time ago. -/
def createReusing (endpoint : Endpoint) : Act (Except NetError Nat) := do
  match ← create endpoint with
  | .error e => return .error e
  | .ok socket => return (← request "set SO_REUSEADDR on" endpoint).map fun _ => socket

def listen (token : String) (port : Nat) : Act (Except NetError Nat) := do
  match ← createReusing (.loopback port) with
  | .error e => return .error e
  | .ok socket =>
    match ← armed token socket "listen on" (.loopback port) (claimPort socket port) with
    | .error e => return .error e
    | .ok () =>
      note .debug s!"listening on {(Endpoint.loopback port).describe}"
      return .ok socket

def accept (token : String) (listener : Nat) : Act (Except NetError Nat) := do
  let endpoint := ((← get).sockets listener).endpoint
  let result ← armed token listener "accept on" endpoint do
    blockUntil (Host.isAcceptable listener)
    modifyGet (Host.takeWaiting listener)
  if result.isOk then note .debug s!"accepted connection on {endpoint.describe}"
  return result

/-- Microseconds that an attempt to connect takes. -/
def connectTime : Nat := 10

def dial (socket port : Nat) : Act (Except Fault Nat) := do
  modify (Host.undertake (.dial port))
  modify (Host.elapse connectTime)
  match (← get).reception socket with
  | .error cause => return .error cause
  | .ok peer =>
    modify (Host.meet socket peer)
    return .ok socket

def connect (token : String) (port : Nat) : Act (Except NetError Nat) := do
  match ← create (.loopback port) with
  | .error e => return .error e
  | .ok socket => armed token socket "connect to" (.loopback port) (dial socket port)

/-- Receive at most `max` bytes; none at the end of the stream. -/
def receive (token : String) (socket max : Nat) : Act (Except NetError (List UInt8)) := do
  let result ← armed token socket "receive from" .unspecified do
    blockUntil (Host.isReadable socket)
    modifyGet (Host.readFrom socket max)
  match result with
  | .ok [] =>
    if max ≠ 0 && (← isInterrupted token) then return .error .interrupted else return .ok []
  | result => return result

/-- Write bytes a number of times over. What the other end has no room for blocks until the stream
is broken, because nobody reads meanwhile. -/
def write (socket : Nat) (bytes : List UInt8) (times : Nat) : Act (Except Fault Unit) := do
  let total := bytes.length * times
  if total = 0 then return .ok ()
  let h ← get
  if h.isBroken socket then return .error .brokenPipe
  let sent := min total (h.room socket)
  modify (Host.deliver socket (repeated bytes sent))
  if sent = total then return .ok ()
  blockUntil (Host.isBroken socket)
  return .error .brokenPipe

def send (token : String) (socket : Nat) (bytes : List UInt8) (times : Nat := 1) :
    Act (Except NetError Unit) :=
  armed token socket "send to" .unspecified (write socket bytes times)

def close (listener : Nat) : Act Unit := do
  note .debug s!"closing socket on {((← get).sockets listener).endpoint.describe}"
  modify (Host.closeSocket listener)

end Net
end DebugBridge
