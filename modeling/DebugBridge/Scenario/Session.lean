import DebugBridge.Scenario.Step
import DebugBridge.Tunnel.Connection

/-!
# Sessions

A session runs the steps of a scenario one after another on one host and keeps what they named. An
alarm that a step sets belongs to the step: if it has not gone off when the step is over, it goes
off then.
-/

namespace DebugBridge.Scenario

structure Session where
  bridge : Bridge
  tunnels : String → Option Tunnel := fun _ => none
  listeners : String → Option Nat := fun _ => none
  streams : String → Option Nat := fun _ => none
  peers : String → Option Nat := fun _ => none
  /-- The streams armed by hand, as the numbers of their other ends. -/
  pairs : String → Option Nat := fun _ => none
  children : String → Option Nat := fun _ => none

def standardSocket : String := "adbtun"

namespace Session

def tunnel (s : Session) (name : String) : Tunnel :=
  (s.tunnels name).getD { socket := standardSocket }

def setTunnel (s : Session) (name : String) (t : Tunnel) : Session :=
  { s with tunnels := assign s.tunnels name (some t) }

def settle {ε α : Type} (failure : ε → Failure) (value : α → Value) :
    Except ε α → Except Failure Value
  | .ok a => .ok (value a)
  | .error e => .error (failure e)

/-- A step that names a socket: the old bearer of the name is closed. -/
def closeOld (old? : Option Nat) : Act Unit :=
  match old? with
  | some old => modify (Host.closeSocket old)
  | none => return ()

def performBridge (b : Bridge) (token : String) : Step → Act (Except Failure Value)
  | .action a => return settle .bridge (fun _ => .nothing) (← b.act token a)
  | .connect address => return settle .bridge (fun _ => .nothing) (← b.connect token address)
  | .property serial name => return settle .bridge .text (← b.property token serial name)
  | .serialNumber => return settle .bridge .text (← b.serialNumber token)
  | .executable => return .ok (.text b.executable)
  | .devices => return settle .bridge .devices (← b.devices token)
  | .address serial => return settle .bridge .optionalText (← b.address token serial)
  | .choose selector => return settle .choice .device (← b.choose token selector)
  | .enable serial port interval =>
    return settle .wireless .text (← Wireless.enable b token serial port interval)
  | .join address => return settle .wireless .text (← Wireless.connect b token address)
  | _ => return .error .impossible

/-- The value of a call that a tunnel may not be in the state for. -/
def settleUse {ε : Type} (failure : ε → Failure) :
    Except Misuse (Except ε Unit) → Except Failure Value
  | .ok result => settle failure (fun _ => .nothing) result
  | .error m => .error (.misuse m)

def nameStream (s : Session) (name : String) :
    Except TunnelError Nat → Act (Except Failure Value × Session)
  | .ok stream => do
    closeOld (s.streams name)
    return (.ok .nothing, { s with streams := assign s.streams name (some stream) })
  | .error e => return (.error (.tunnel e), s)

def performTunnel (s : Session) (token : String) : Step → Act (Except Failure Value × Session)
  | .tunnelNew name socket => do
    closeOld (s.tunnel name).listener?
    return (.ok .nothing, s.setTunnel name { socket := socket })
  | .tunnelState _ => return (.ok .nothing, s)
  | .tunnelOpen name serial range forceForward => do
    let (result, t) ← (s.tunnel name).establish s.bridge token serial range forceForward
    return (settleUse .tunnel result, s.setTunnel name t)
  | .tunnelClose name serial => do
    let (result, t) ← (s.tunnel name).close s.bridge token serial
    return (settleUse .bridge result, s.setTunnel name t)
  | .tunnelAccept tunnel name => do nameStream s name (← (s.tunnel tunnel).accept token)
  | .tunnelConnect tunnel name attempts delay => do
    nameStream s name (← (s.tunnel tunnel).connect token (UInt32.ofNat attempts) delay)
  | _ => return (.error .impossible, s)

def nameListener (s : Session) (name : String) (listener : Nat) : Act Session := do
  closeOld (s.listeners name)
  return { s with listeners := assign s.listeners name (some listener) }

/-- The port that is shown for a listener. Which port the system chose is not shown. -/
def shownPort (endpoint : Host.Endpoint) : Option Nat :=
  endpoint.port?.map fun port => if Host.firstEphemeral ≤ port then 1 else port

def isListening (listener : Nat) (h : Host) : Bool :=
  match h.sockets listener with
  | .listener l => l.listening
  | _ => false

/-- A peer connects to a local listener: the peer's end. -/
def dial (listener : Nat) (h : Host) : Nat × Host :=
  let ((near, far), h) := h.addStream
  (far, h.updateSocket listener fun
    | .listener l => .listener { l with waiting := l.waiting ++ [near] }
    | other => other)

def performListener (s : Session) (token : String) : Step → Act (Except Failure Value × Session)
  | .take port => do
    if (← get).isListening port then return (.error .impossible, s)
    modify fun h => { h with taken := assign h.taken port true }
    return (.ok .nothing, s)
  | .release port => do
    modify fun h => { h with taken := assign h.taken port false }
    return (.ok .nothing, s)
  | .portFree port => return (.ok (.flag !((← get).isListening port)), s)
  | .listen name port => do
    match ← Net.listen token port with
    | .error e => return (.error (.net e), s)
    | .ok listener =>
      return (.ok (.port (some (if port = 0 then 1 else port))), ← nameListener s name listener)
  | .listenerPort name => do
    match s.listeners name with
    | some listener => return (.ok (.port (shownPort ((← get).sockets listener).endpoint)), s)
    | none => return (.error .impossible, s)
  | .closeListener name => do
    match s.listeners name with
    | some listener =>
      Net.close listener
      return (.ok .nothing, { s with listeners := assign s.listeners name none })
    | none => return (.error .impossible, s)
  | .netConnect port => return (settle .net (fun _ => .nothing) (← Net.connect token port), s)
  | .loopback port => return (.ok (.text (Host.Endpoint.loopback port).describe), s)
  | .localListen name => do
    let listener ← modifyGet (Host.addSocket (.listener { endpoint := .unspecified }))
    return (.ok .nothing, ← nameListener s name listener)
  | .localDial listener name => do
    match (s.listeners listener).filter (isListening · (← get)) with
    | some listener =>
      closeOld (s.peers name)
      let peer ← modifyGet (dial listener)
      return (.ok (.flag true), { s with peers := assign s.peers name (some peer) })
    | none => return (.ok (.flag false), s)
  | .accept listener name => do
    match s.listeners listener with
    | none => return (.error .impossible, s)
    | some listener =>
      match ← Net.accept token listener with
      | .error e => return (.error (.net e), s)
      | .ok stream =>
        closeOld (s.streams name)
        return (.ok .nothing, { s with streams := assign s.streams name (some stream) })
  | _ => return (.error .impossible, s)

def performStream (s : Session) (token : String) : Step → Act (Except Failure Value × Session)
  | .pair name => do
    closeOld (s.streams name)
    closeOld (s.peers name)
    let (near, far) ← modifyGet Host.addStream
    return (.ok .nothing, { s with
      streams := assign s.streams name (some near), peers := assign s.peers name (some far) })
  | .receive name max => do
    match s.streams name with
    | some stream => return (settle .net .bytes (← Net.receive token stream max), s)
    | none => return (.error .impossible, s)
  | .send name bytes times => do
    match s.streams name with
    | some stream =>
      return (settle .net (fun _ => .nothing) (← Net.send token stream bytes times), s)
    | none => return (.error .impossible, s)
  | .peerSend name bytes => do
    match s.peers name with
    | some peer =>
      return (settle (fun _ => .impossible) (fun _ => .nothing) (← Net.write peer bytes 1), s)
    | none => return (.error .impossible, s)
  | .peerReceive name max => do
    match s.peers name with
    | some peer =>
      blockUntil (Host.isReadable peer)
      return (settle (fun _ => .impossible) .bytes (← modifyGet (Host.readFrom peer max)), s)
    | none => return (.error .impossible, s)
  | .peerClose name => do
    match s.peers name with
    | some peer =>
      modify (Host.closeStream peer)
      return (.ok .nothing, { s with peers := assign s.peers name none })
    | none => return (.error .impossible, s)
  | .peerShutdown name => do
    match s.peers name with
    | some peer =>
      modify (Host.shutWriting peer)
      return (.ok .nothing, s)
    | none => return (.error .impossible, s)
  | _ => return (.error .impossible, s)

def stage : Staged → Child
  | .running => {}
  | .ended outcome => { outcome? := some outcome }

def performToken (s : Session) (token : String) : Step → Act (Except Failure Value × Session)
  | .interrupt => do
    interrupt token
    return (.ok .nothing, s)
  | .disarm => do
    disarm token
    return (.ok .nothing, s)
  | .isInterrupted => return (.ok (.flag (← isInterrupted token)), s)
  | .sleep duration => return (.ok (.flag (← sleep token duration)), s)
  | .armProcess name staged => do
    let child ← modifyGet (Host.addChild (stage staged))
    let armed ← arm token (.process child)
    return (.ok (.flag armed), { s with children := assign s.children name (some child) })
  | .child name running => do
    match s.children name with
    | none => return (.error .impossible, s)
    | some child =>
      let killed := ((← get).children child).killed
      if running && !killed then return (.ok (.child killed none), s)
      return (.ok (.child killed (some (← wait child false))), s)
  | .killChild name => do
    match s.children name with
    | none => return (.error .impossible, s)
    | some child =>
      let _ ← kill child
      return (.ok .nothing, s)
  | .armSocket name .unconnected => do
    let socket ← modifyGet (Host.addSocket .unconnected)
    let armed ← arm token (.socket socket)
    return (.ok (.flag armed), { s with pairs := assign s.pairs name none })
  | .armSocket name .pair => do
    let (near, far) ← modifyGet Host.addStream
    let armed ← arm token (.socket near)
    return (.ok (.flag armed), { s with pairs := assign s.pairs name (some far) })
  | .socketShut name => do
    match s.pairs name with
    | some far => return (.ok (.flag (Host.isAtEnd far (← get))), s)
    | none => return (.error .impossible, s)
  | _ => return (.error .impossible, s)

def perform (s : Session) (token : String) (step : Step) :
    Act (Except Failure Value × Session) :=
  match step with
  | .action _ | .connect _ | .property .. | .serialNumber | .executable | .devices | .address _
  | .choose _ | .enable .. | .join _ => do return (← performBridge s.bridge token step, s)
  | .tunnelNew .. | .tunnelState _ | .tunnelOpen .. | .tunnelClose .. | .tunnelAccept ..
  | .tunnelConnect .. | .tunnelUnreachable _ => performTunnel s token step
  | .take _ | .release _ | .portFree _ | .listen .. | .listenerPort _ | .closeListener _
  | .netConnect _ | .loopback _ | .localListen _ | .localDial .. | .accept .. =>
    performListener s token step
  | .pair _ | .receive .. | .send .. | .peerSend .. | .peerReceive .. | .peerClose _
  | .peerShutdown _ => performStream s token step
  | .interrupt | .disarm | .isInterrupted | .sleep _ | .armProcess .. | .child .. | .killChild _
  | .armSocket .. | .socketShut _ => performToken s token step
  | .unreachable => return (.error .impossible, s)

end Session

/-- A step with the token that it uses and the time after which somebody interrupts it. -/
structure Order where
  step : Step
  token : String := Cancel.workToken
  interruptAfter? : Option Nat := none
  deriving DecidableEq, Repr

/-- A command that a step ran, and the calls made on its child. -/
structure Run where
  argv : List String
  mode : Mode
  calls? : Option (List Call)
  deriving DecidableEq, Repr

structure Report where
  result : Except Failure Value
  runs : List Run
  tunnel? : Option Tunnel

/-- The commands that were run after the first `before`, in order. -/
def runsSince (before : Nat) (h : Host) : List Run :=
  (h.commands.reverse.drop before).map fun c =>
    ⟨c.argv, c.mode, c.child?.map fun child => (h.callsOn child).reverse⟩

def Session.obey (s : Session) (order : Order) : Act (Report × Session) := do
  let before := (← get).commands.length
  if let some delay := order.interruptAfter? then setAlarm order.token delay
  let (result, s) ← s.perform order.token order.step
  ringAll
  return (⟨result, runsSince before (← get), order.step.tunnel?.map s.tunnel⟩, s)

/-- Carry out the orders of a scenario one after another. -/
def Session.obeyAll (s : Session) : List Order → Act (List Report)
  | [] => return []
  | order :: orders => do
    let (report, s) ← s.obey order
    return report :: (← s.obeyAll orders)

end DebugBridge.Scenario
