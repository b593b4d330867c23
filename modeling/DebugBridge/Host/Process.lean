import DebugBridge.Host.Time

/-!
# Children on the host

Starting a command, reading its output, waiting for it and killing it. Every call on a child is
recorded before it takes effect, and the interrupts that are bound to that moment strike between the
two.
-/

namespace DebugBridge

namespace Host

/-- What a command prints where its standard output is inherited. -/
def inherit (mode : Mode) (o : Output) (h : Host) : Host :=
  match mode with
  | .run => { h with stdout := o.bytes :: h.stdout }
  | _ => h

def firstPid : Nat := 1000

/-- Hand a command to the system. A failure to start it uses up a number too. -/
def start (argv : List String) (mode : Mode) (h : Host) :
    Except SpawnError (Nat × Output) × Host :=
  match argv with
  | [] => (.error .emptyCommand, h)
  | program :: _ =>
    let number := h.commands.length
    let reply := h.backend (h.commands.map (·.argv)) argv
    match reply.fate.spawnError? program with
    | some e => (.error e, { h with commands := ⟨argv, mode, none⟩ :: h.commands })
    | none =>
      let (id, h) := h.addChild
        { pid := firstPid + number, command? := some number, outcome? := reply.fate.outcome?,
          killFault? := h.killFault? }
      (.ok (id, reply.output),
        { h with commands := ⟨argv, mode, some id⟩ :: h.commands }.inherit mode reply.output)

end Host

def spawn (argv : List String) (mode : Mode) : Act (Except SpawnError (Nat × Output)) := do
  let number := (← get).commands.length
  let result ← modifyGet (Host.start argv mode)
  modify (Host.strike number .spawn)
  return result

def callChild (child : Nat) (call : Call) : Act Unit := modify (Host.record child call)

/-- Let the strikes of a moment in the life of a child's command happen. -/
def reach (child : Nat) (point : Host.Point) : Act Unit := modify fun h =>
  match (h.children child).command? with
  | some number => h.strike number point
  | none => h

/-- Let the strikes of a moment after the latest command happen. -/
def reachLatest (point : Host.Point) : Act Unit := modify fun h =>
  match h.commands with
  | [] => h
  | _ :: earlier => h.strike earlier.length point

def awaitEnd (child : Nat) : Act Unit := blockUntil fun h => (h.children child).hasEnded

/-- Wait for a child, and with `reap` release it. The strikes of the first wait happen in whichever
kind comes first. -/
def wait (child : Nat) (reap : Bool) : Act Outcome := do
  callChild child (if reap then .reap else .wait)
  reach child .wait
  if reap then reach child .reap
  awaitEnd child
  return ((← get).children child).outcome?.getD .unknown

def kill (child : Nat) : Act (Option Fault) := modifyGet (Host.killChild child)

def blockForever : Act Unit := blockUntil fun _ => false

/-- What comes after the bytes that were read: end of file once the child has ended, or a fault. -/
def awaitEnding (child : Nat) (ending : Ending) : Act (Except Fault Unit) := do
  match ending with
  | .broken cause => return .error cause
  | .held =>
    blockForever
    return .ok ()
  | .closed | .endless =>
    awaitEnd child
    return .ok ()

def readOutput (child : Nat) (output : Output) (limit : Nat) : Act (Except Fault Capture) := do
  callChild child .read
  reach child .read
  match (readBounded (output.visible limit) limit).1 with
  | .overflow head => return .ok (.overflow head)
  | .complete bytes => return (← awaitEnding child output.ending).map fun _ => .complete bytes

/-- Read the rest of the output of a child and throw it away. -/
def drainOutput (child : Nat) (output : Output) : Act (Except Fault Unit) := do
  callChild child .read
  reach child .drain
  awaitEnding child output.ending

end DebugBridge
