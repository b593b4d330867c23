/-!
# Diagnostic events

What an operation has to say beside its result: a line of text and how severe it is. A reader sets a
threshold and sees the events at least that severe, in the order in which they arose.
-/

namespace DebugBridge

inductive Severity where
  | error
  | warn
  | info
  | debug
  deriving DecidableEq, Repr

def Severity.rank : Severity → Nat
  | .error => 0
  | .warn => 1
  | .info => 2
  | .debug => 3

def Severity.label : Severity → String
  | .error => "ERROR"
  | .warn => "WARN"
  | .info => "INFO"
  | .debug => "DEBUG"

structure Event where
  severity : Severity
  text : String
  deriving DecidableEq, Repr

/-- The events that a reader with this threshold sees. -/
def Event.visible (threshold : Severity) (events : List Event) : List Event :=
  events.filter (·.severity.rank ≤ threshold.rank)

end DebugBridge
