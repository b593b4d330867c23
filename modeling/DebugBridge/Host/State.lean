import DebugBridge.Assign
import DebugBridge.Cancel.Token
import DebugBridge.Event
import DebugBridge.Host.Socket
import DebugBridge.Process.Child
import DebugBridge.Process.Reply

/-!
# The host

Everything outside the program that its answers can show: the children it has started and what was
asked of them, the sockets and ports, the cancellation tokens, the clock with whatever is set to
happen later, and what was written. Lists of what has happened hold the latest first.
-/

namespace DebugBridge

/-- How the standard streams of a command are connected. -/
inductive Mode where
  /-- Inherited. -/
  | run
  /-- Discarded. -/
  | quiet
  /-- Standard output goes to the program. -/
  | capture
  deriving DecidableEq, Repr

namespace Host

structure Command where
  argv : List String
  mode : Mode
  /-- The child, if one was started. -/
  child? : Option Nat
  deriving DecidableEq, Repr

inductive Point where
  | spawn
  | wait
  /-- The child is waited for and released. -/
  | reap
  | read
  /-- What is left of the output is read and thrown away. -/
  | drain
  /-- A socket has begun to listen, or could not, and is still armed; the command is the next
  one. -/
  | listen
  /-- The command is over, and its failure is about to be reported. -/
  | failure
  /-- The command is over, and it is about to be reported that its port is given up. -/
  | retry
  /-- The command is over, and it is about to be reported that its direction is given up. -/
  | fallback
  deriving DecidableEq, Repr

/-- An interrupt that is bound to a moment in the life of a command. -/
structure Strike where
  /-- The number of the command. -/
  command : Nat
  point : Point
  token : String
  /-- Somebody else strikes a little later, while the program is blocked. -/
  later : Bool := false
  deriving DecidableEq, Repr

/-- A call on a child, and how things stood when it was made. -/
structure Occasion where
  child : Nat
  call : Call
  before : Child
  tokens : String → Cancel.Token

/-- What the program undertakes itself, apart from commands. -/
inductive Deed where
  /-- The system is asked to connect to a loopback port. -/
  | dial (port : Nat)
  /-- A sleep of some microseconds begins. -/
  | nap (duration : Nat)
  deriving DecidableEq, Repr

/-- Something the program undertook, and how things stood then. -/
structure Effort where
  deed : Deed
  tokens : String → Cancel.Token

/-- An interrupt that comes at a certain time. -/
structure Alarm where
  due : Nat
  token : String
  deriving DecidableEq, Repr

/-- What has to be seen before the user asks the program to stop. -/
inductive Cue where
  /-- A command of this number was started, of those that could be started. -/
  | command (number : Nat)
  /-- A line that begins so was printed. -/
  | line (start : String)
  deriving DecidableEq, Repr

end Host

/-- The state of the host. -/
structure Host where
  backend : Backend
  strikes : List Host.Strike := []
  /-- What every kill of a command reports although it works. -/
  killFault? : Option Fault := none
  /-- Microseconds. -/
  clock : Nat := 0
  /-- The last moment that the clock can show, if it has one. -/
  clockEnd? : Option Nat := none
  alarms : List Host.Alarm := []
  /-- The requests to stop that are still to come. -/
  cues : List Host.Cue := []
  /-- How many requests to stop have come. -/
  requests : Nat := 0
  commands : List Host.Command := []
  children : Nat → Child := fun _ => {}
  childCount : Nat := 0
  /-- What was asked of the children, so that the whole life of each can be read off. -/
  occasions : List Host.Occasion := []
  tokens : String → Cancel.Token := fun _ => {}
  sockets : Nat → Host.Socket := fun _ => .unconnected
  socketCount : Nat := 0
  /-- The ports on which somebody else listens. -/
  taken : Nat → Bool := fun _ => false
  /-- Why the next requests for a socket, for an option of one and for a second handle to one are
  refused, if they are; later ones are granted. -/
  supply : List (Option Fault) := []
  /-- What will come of accepting connections at a port on which a socket listens. -/
  visitors : Nat → List (Except Fault Host.Peer) := fun _ => []
  /-- What comes of connecting a socket. -/
  reception : Nat → Except Fault Host.Peer := fun _ => .error .networkUnreachable
  /-- What the program undertook so far. -/
  efforts : List Host.Effort := []
  events : List Event := []
  /-- What had been written when a token was interrupted for the first time. -/
  foreword : String → List Event := fun _ => []
  stdout : List (List UInt8) := []
  stderr : List String := []

namespace Host

/-- Why an activity does not return. -/
inductive Halt where
  /-- It is blocked and nothing is left that could wake it. -/
  | forever
  /-- The whole program ended with an exit code. -/
  | exit (code : Nat)
  /-- The thread panicked. -/
  | panicked
  deriving DecidableEq, Repr

end Host

/-- An activity on the host. -/
abbrev Act := EStateM Host.Halt Host

namespace Host

def note (severity : Severity) (text : String) (h : Host) : Host :=
  { h with events := ⟨severity, text⟩ :: h.events }

def updateChild (id : Nat) (f : Child → Child) (h : Host) : Host :=
  { h with children := assign h.children id (f (h.children id)) }

/-- The host after something was asked of a child. -/
def record (child : Nat) (call : Call) (h : Host) : Host :=
  { h with occasions := ⟨child, call, h.children child, h.tokens⟩ :: h.occasions }

/-- The calls on a child, each with how things stood then, latest first. -/
def occasionsOn (child : Nat) (h : Host) : List Occasion := h.occasions.filter (·.child = child)

def callsOn (child : Nat) (h : Host) : List Call := (h.occasionsOn child).map (·.call)

def undertake (deed : Deed) (h : Host) : Host :=
  { h with efforts := ⟨deed, h.tokens⟩ :: h.efforts }

@[simp] theorem children_record (child : Nat) (call : Call) (h : Host) :
    (h.record child call).children = h.children := rfl

@[simp] theorem tokens_record (child : Nat) (call : Call) (h : Host) :
    (h.record child call).tokens = h.tokens := rfl

@[simp] theorem occasionsOn_record_same (child : Nat) (call : Call) (h : Host) :
    (h.record child call).occasionsOn child =
      ⟨child, call, h.children child, h.tokens⟩ :: h.occasionsOn child := by
  simp [occasionsOn, record]

@[simp] theorem occasionsOn_record_other {child other : Nat} (call : Call) (h : Host)
    (ne : other ≠ child) : (h.record other call).occasionsOn child = h.occasionsOn child := by
  simp [occasionsOn, record, ne]

@[simp] theorem callsOn_record_same (child : Nat) (call : Call) (h : Host) :
    (h.record child call).callsOn child = call :: h.callsOn child := by
  simp [callsOn]

@[simp] theorem callsOn_record_other {child other : Nat} (call : Call) (h : Host)
    (ne : other ≠ child) : (h.record other call).callsOn child = h.callsOn child := by
  simp [callsOn, ne]

def updateToken (name : String) (f : Cancel.Token → Cancel.Token) (h : Host) : Host :=
  { h with tokens := assign h.tokens name (f (h.tokens name)) }

def updateSocket (id : Nat) (f : Socket → Socket) (h : Host) : Host :=
  { h with sockets := assign h.sockets id (f (h.sockets id)) }

def addChild (c : Child) (h : Host) : Nat × Host :=
  (h.childCount,
    { h with children := assign h.children h.childCount c, childCount := h.childCount + 1 })

def addSocket (s : Socket) (h : Host) : Nat × Host :=
  (h.socketCount,
    { h with sockets := assign h.sockets h.socketCount s, socketCount := h.socketCount + 1 })

def interrupted (name : String) (h : Host) : Bool := (h.tokens name).interrupted

theorem interrupted_updateToken {name token : String} {f : Cancel.Token → Cancel.Token} {h : Host}
    (kept : (f (h.tokens name)).interrupted = (h.tokens name).interrupted) :
    (h.updateToken name f).interrupted token = h.interrupted token := by
  by_cases eq : token = name
  · subst eq
    simpa [interrupted, updateToken] using kept
  · simp [interrupted, updateToken, eq]

def isListening (port : Nat) (h : Host) : Bool :=
  h.taken port || (List.range h.socketCount).any fun id => (h.sockets id).listensOn port

def printed (h : Host) : List UInt8 := h.stdout.reverse.flatten

end Host

def note (severity : Severity) (text : String) : Act Unit := modify (Host.note severity text)

def noteAll (events : List Event) : Act Unit :=
  modify fun h => { h with events := events.reverse ++ h.events }

def printLine (line : String) : Act Unit :=
  modify fun h => { h with stdout := (line ++ "\n").toUTF8.toList :: h.stdout }

def complain (line : String) : Act Unit := modify fun h => { h with stderr := line :: h.stderr }

def isInterrupted (token : String) : Act Bool := do return (← get).interrupted token

end DebugBridge
