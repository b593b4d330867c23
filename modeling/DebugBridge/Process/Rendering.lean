/-!
# Commands in diagnostics

A command is shown as its arguments in brackets. The text stays below a capacity in bytes: an
argument is shown whole or not at all, and the first one that does not fit is replaced by an
ellipsis together with everything after it.
-/

namespace DebugBridge.Rendering

/-- Bytes kept free beyond an argument's own: its brackets, a separator, an ellipsis and one
more. -/
def reserved : Nat := 8

def ellipsis : String := "..."

/-- One argument, after a separator unless it is the first. -/
def item (first : Bool) (argument : String) : String :=
  (if first then "" else ", ") ++ "[" ++ argument ++ "]"

/-- The arguments that fit behind the bytes already written. -/
def fromByte (capacity written : Nat) (first : Bool) : List String → String
  | [] => ""
  | argument :: rest =>
    if written + argument.utf8ByteSize + reserved < capacity then
      let shown := item first argument
      shown ++ fromByte capacity (written + shown.utf8ByteSize) false rest
    else if written + ellipsis.utf8ByteSize < capacity then ellipsis
    else ""

def render (argv : List String) (capacity : Nat) : String := fromByte capacity 0 true argv

end DebugBridge.Rendering
