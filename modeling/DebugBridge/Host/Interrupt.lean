import DebugBridge.Host.State

/-!
# Interrupts on the host

An interrupt raises the flag of a token and then forces the armed resource closed: a child is
killed, a socket is shut down. The two halves are separate so that others may act between them.
-/

namespace DebugBridge

open Cancel

namespace Host

def updateStream (id : Nat) (f : Stream → Stream) (h : Host) : Host :=
  h.updateSocket id fun
    | .stream s => .stream (f s)
    | other => other

/-- Shut a socket down in both directions. A listener no longer listens; a stream is shut for the
other end too; a socket that is not connected has nothing to shut. -/
def shutDown (id : Nat) (h : Host) : Option Fault × Host :=
  match h.sockets id with
  | .unconnected => (some .notConnected, h)
  | .listener l =>
    if l.listening || l.endpoint = .unspecified then
      (none, h.updateSocket id fun _ => .listener { l with listening := false })
    else (some .notConnected, h)
  | .stream s => (none, (h.updateStream id Stream.shut).updateStream s.peer Stream.shut)

/-- Kill a child; the kill works even if it reports a fault. -/
def killChild (id : Nat) (h : Host) : Option Fault × Host :=
  ((h.children id).killFault?, (h.record id .kill).updateChild id Child.kill)

def forceClosed (r : Resource) (h : Host) : Host :=
  match r with
  | .socket id =>
    match (h.note .debug "interrupting blocked socket").shutDown id with
    | (none, h) => h
    | (some cause, h) => h.note .debug s!"socket shutdown on interrupt: {cause.message}"
  | .process id =>
    let pid := (h.children id).pid
    match (h.note .debug s!"interrupting process {pid}").killChild id with
    | (none, h) => h
    | (some cause, h) => h.note .warn s!"could not terminate process {pid}: {cause.message}"

/-- The first half of an interrupt. -/
def raise (token : String) (h : Host) : Host :=
  { h.updateToken token Token.raise with
    foreword := if h.interrupted token then h.foreword else assign h.foreword token h.events }

/-- The second half of an interrupt. -/
def closeArmed (token : String) (h : Host) : Host :=
  match (h.tokens token).take with
  | (none, _) => h
  | (some r, rest) => (h.updateToken token fun _ => rest).forceClosed r

/-- Interrupt a token. -/
def interrupt (token : String) (h : Host) : Host := (h.raise token).closeArmed token

/-- An interrupt by somebody else, whose diagnostics are not the program's. -/
def interruptFromOutside (token : String) (h : Host) : Host :=
  { h.interrupt token with events := h.events }

end Host

/-- Arm a token with what is about to block; refused after an interrupt. -/
def arm (token : String) (r : Resource) : Act Bool := do
  let h ← get
  let t := h.tokens token
  if t.interrupted then return false
  if t.armed.isSome then
    note .warn "interruptor armed twice without disarm; replacing resource"
  modify (Host.updateToken token fun t => (t.arm r).2)
  return true

def disarm (token : String) : Act Unit := modify (Host.updateToken token Token.disarm)

def interrupt (token : String) : Act Unit := modify (Host.interrupt token)

end DebugBridge
