import DebugBridge.Bridge.Run
import DebugBridge.Tunnel.State

/-!
# Opening and closing tunnels

The ports of a range are tried in ascending order, first in reverse direction and then in forward
direction. A reverse registration whose port cannot be listened on is taken back before the next
port is tried; a registration that fails has nothing to do with the port, so the direction is given
up. An interrupt ends the negotiation.
-/

namespace DebugBridge.Tunnel

/-- Say something about the latest command; the strikes of this moment come before the words. -/
def remark (point : Host.Point) (severity : Severity) (text : String) : Act Unit := do
  reachLatest point
  note severity text

/-- Report a registration that could not be taken back. -/
def noteUndoFailure (direction : Direction) (e : BridgeError) : Act Unit :=
  let command := direction.command
  if e.isInterrupted then note .debug s!"'adb {command} --remove' skipped: interrupted"
  else remark .failure .warn s!"could not remove '{command}' tunnel: {e.message}"

def noteListenFailure (range : PortRange) (port : Nat) (e : NetError) : Act Unit :=
  if port < range.last then
    remark .retry .warn s!"could not listen on port {port} ({e.message}), retrying on {port + 1}"
  else if range.size > 1 then
    remark .retry .error s!"could not listen on any port in range {range.describe}"
  else remark .retry .error s!"could not listen on port {port}: {e.message}"

/-- Try the given ports in reverse direction; nothing when that direction is given up. -/
def openReverse (b : Bridge) (token serial socket : String) (range : PortRange) :
    List Nat → Act (Except TunnelError (Option Passage))
  | [] => return .ok none
  | port :: rest => do
    match ← b.act token (.reverse serial socket port) with
    | .error e =>
      if e.isInterrupted then return .error .interrupted
      remark .failure .warn s!"could not set up reverse tunnel: {e.message}"
      return .ok none
    | .ok () =>
      match ← Net.listen token port with
      | .ok listener =>
        note .info s!"reverse tunnel open on port {port}"
        return .ok (some (.reverse port listener))
      | .error cause =>
        if let .error e ← b.act token (.reverseRemove serial socket) then
          noteUndoFailure .reverse e
        if ← isInterrupted token then return .error .interrupted
        noteListenFailure range port cause
        openReverse b token serial socket range rest

def openForward (b : Bridge) (token serial socket : String) (range : PortRange) :
    List Nat → Act (Except TunnelError Passage)
  | [] => do
    if range.size > 1 then
      note .error s!"could not forward any port in range {range.describe}"
    else note .error s!"could not forward port {range.first}"
    return .error (.portRangeExhausted range)
  | port :: rest => do
    match ← b.act token (.forward serial port socket) with
    | .ok () =>
      note .info s!"forward tunnel open on port {port}"
      return .ok (.forward port)
    | .error e =>
      if e.isInterrupted then return .error .interrupted
      if ← isInterrupted token then return .error .interrupted
      if port < range.last then
        remark .retry .warn <|
          s!"could not forward port {port} ({e.message}), retrying on {port + 1}"
      openForward b token serial socket range rest

def negotiate (b : Bridge) (token serial socket : String) (range : PortRange)
    (forceForward : Bool) : Act (Except TunnelError Passage) := do
  if forceForward then openForward b token serial socket range range.ports
  else
    match ← openReverse b token serial socket range range.ports with
    | .error e => return .error e
    | .ok (some passage) => return .ok passage
    | .ok none =>
      remark .fallback .warn "'adb reverse' failed, fallback to 'adb forward'"
      openForward b token serial socket range range.ports

/-- Establish a tunnel: the result and the tunnel as it then is. Only a closed tunnel can be
established. -/
def establish (t : Tunnel) (b : Bridge) (token serial : String) (range : PortRange)
    (forceForward : Bool) : Act (Except Misuse (Except TunnelError Unit) × Tunnel) := do
  if t.enabled then return (.error .alreadyOpen, t)
  match ← negotiate b token serial t.socket range forceForward with
  | .error e => return (.ok (.error e), t)
  | .ok passage => return (.ok (.ok ()), t.through passage)

/-- Report how taking a tunnel down went. -/
def noteClosed (direction : Direction) (port : Nat) (result : Except BridgeError Unit) : Act Unit :=
  match result with
  | .ok () => note .debug s!"tunnel on port {port} closed"
  | .error e => noteUndoFailure direction e

/-- Take the registration of a tunnel back and close its socket: what the bridge said to it, and the
socket that is left. -/
def release (t : Tunnel) (b : Bridge) (token serial : String) :
    Act (Except BridgeError Unit × Option Nat) := do
  match t.direction with
  | .reverse =>
    let result ← b.act token (.reverseRemove serial t.socket)
    if let some listener := t.listener? then Net.close listener
    return (result, none)
  | .forward =>
    let result ← b.act token (.forwardRemove serial t.localPort)
    return (result, t.listener?)

/-- Close a tunnel: the result and the tunnel as it then is. The tunnel is closed even if the bridge
could not take the registration back. Only an open tunnel can be closed. -/
def close (t : Tunnel) (b : Bridge) (token serial : String) :
    Act (Except Misuse (Except BridgeError Unit) × Tunnel) := do
  if !t.enabled then return (.error .notOpen, t)
  let (result, left?) ← t.release b token serial
  noteClosed t.direction t.localPort result
  return (.ok result, { t with enabled := false, listener? := left? })

end DebugBridge.Tunnel
