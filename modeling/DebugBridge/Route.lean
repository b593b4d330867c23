import DebugBridge.Event
import DebugBridge.Text.Columns
import DebugBridge.Text.Lines

/-!
# The routing table of a device

A route line names its interface in column 2 and the device's own address six columns further. Only
the interfaces of the wireless network can be reached from other machines, so `address?` is the
address on the first line of such an interface that has one.
-/

namespace DebugBridge.Route

open Text

def interfaceColumn : Nat := 2

/-- How far behind the interface name the address stands. -/
def addressDistance : Nat := 6

inductive Line where
  | short
  | ignored (address interface : String)
  | withoutAddress
  | found (address : String)
  deriving DecidableEq, Repr

def Line.read (line : List Char) : Line :=
  match fromColumn? isGap interfaceColumn line with
  | none => .short
  | some fromInterface =>
    match fromColumn? isGap addressDistance fromInterface with
    | none => .short
    | some fromAddress =>
      let interface := token isGap fromInterface
      let address := token isGap fromAddress
      if "wlan".toList.isPrefixOf interface then
        if address.isEmpty then .withoutAddress else .found (String.ofList address)
      else .ignored (String.ofList address) (String.ofList interface)

def Line.address? : Line → Option String
  | .found address => some address
  | _ => none

def Line.note? : Line → Option Event
  | .ignored address interface =>
    some ⟨.debug, s!"device ip lookup: ignoring {address} ({interface})"⟩
  | _ => none

def rows (output : String) : List Line := (lines output.toList).map Line.read

def address? (output : String) : Option String := (rows output).findSome? Line.address?

/-- What was passed over before the address was found. -/
def notes (output : String) : List Event :=
  ((rows output).takeWhile (·.address?.isNone)).filterMap Line.note?

end DebugBridge.Route
