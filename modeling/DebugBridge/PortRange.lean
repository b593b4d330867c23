import DebugBridge.Text.Blank
import DebugBridge.Text.Digits

/-!
# Ranges of local ports

A range holds at least one port: its order and its bound are part of the type. In text a range is
one port, or two with a colon between them; blanks around a number do not count.
-/

namespace DebugBridge

def maxPort : Nat := 65535

/-- The ports from `first` to `last`, both included. -/
structure PortRange where
  first : Nat
  last : Nat
  ordered : first ≤ last
  bounded : last ≤ maxPort
  deriving DecidableEq, Repr

inductive PortRangeError where
  | inverted (first last : Nat)
  | malformed (text : String)
  deriving DecidableEq, Repr

def PortRangeError.message : PortRangeError → String
  | .inverted first last => s!"invalid port range {first}:{last} (first must not exceed last)"
  | .malformed text => s!"invalid port range '{text}' (expected PORT or FIRST:LAST)"

/-- The port that a text names: an optional plus sign and digits, between blanks. -/
def port? (text : List Char) : Option { n : Nat // n ≤ maxPort } :=
  (Text.unsigned? (Text.trim text)).bind fun n =>
    if h : n ≤ maxPort then some ⟨n, h⟩ else none

namespace PortRange

def ofBounds (first last : Nat) (h : last ≤ maxPort) : Except PortRangeError PortRange :=
  if ordered : first ≤ last then .ok ⟨first, last, ordered, h⟩ else .error (.inverted first last)

def single (port : Nat) (h : port ≤ maxPort) : PortRange := ⟨port, port, Nat.le_refl _, h⟩

/-- The range used when nothing else is said. -/
def standard : PortRange := ⟨27183, 27199, by decide, by decide⟩

def size (r : PortRange) : Nat := r.last - r.first + 1

def ports (r : PortRange) : List Nat := List.range' r.first r.size

/-- The range in a message: the port, or both bounds in brackets. -/
def describe (r : PortRange) : String :=
  if r.first = r.last then s!"{r.first}" else s!"[{r.first}, {r.last}]"

def ofText (text : String) : Except PortRangeError PortRange :=
  let s := text.toList
  if ':' ∈ s then
    match port? (s.takeWhile (· ≠ ':')), port? ((s.dropWhile (· ≠ ':')).drop 1) with
    | some first, some last => ofBounds first last last.property
    | _, _ => .error (.malformed text)
  else match port? s with
    | some port => .ok (single port port.property)
    | none => .error (.malformed text)

@[simp] theorem length_ports (r : PortRange) : r.ports.length = r.size := by simp [ports]

theorem mem_ports {r : PortRange} {p : Nat} : p ∈ r.ports ↔ r.first ≤ p ∧ p ≤ r.last := by
  have := r.ordered
  simp only [ports, size, List.mem_range'_1]
  omega

end PortRange
end DebugBridge
