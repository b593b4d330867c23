import DebugBridge.Device
import DebugBridge.Event
import DebugBridge.Text.Columns
import DebugBridge.Text.Lines
import DebugBridge.Text.Quoted

/-!
# The device listing

The bridge prints a header line and then one line per device: serial, state and properties in
columns of spaces or tabs. Start-up chatter stands before the header and may stand after it.
`Line.read` says what one line is; `devices` keeps the entries after the header in order, and
`notes` reports the lines that were passed over.
-/

namespace DebugBridge.Listing

open Text

def header : List Char := "List of devices attached".toList

def modelKey : List Char := "model:".toList

inductive Line where
  | blank
  | chatter (line : String)
  | withoutSerial (line : String)
  | withoutColumns
  | withoutState (line : String)
  | entry (device : Device)
  deriving DecidableEq, Repr

/-- Lines that the bridge prints about itself. -/
def isChatter (line : List Char) : Bool :=
  ['*'].isPrefixOf line || "adb server".toList.isPrefixOf line

/-- The value of the first property token with the model key. -/
def model? (properties : List Char) : Option String :=
  (pieces isGap properties).findSome? fun property =>
    if modelKey.isPrefixOf property then some (String.ofList (property.drop modelKey.length))
    else none

def Line.read (line : List Char) : Line :=
  if line.isEmpty then .blank
  else if isChatter line then .chatter (String.ofList line)
  else
    let serial := token isGap line
    if serial.isEmpty then .withoutSerial (String.ofList line)
    else match fromColumn? isGap 1 line with
      | none => .withoutColumns
      | some rest =>
        let state := token isGap rest
        if state.isEmpty then .withoutState (String.ofList line)
        else .entry
          { serial := String.ofList serial, state := String.ofList state,
            model := model? (rest.drop state.length) }

def Line.device? : Line → Option Device
  | .entry d => some d
  | _ => none

def Line.note? : Line → Option Event
  | .chatter line => some ⟨.debug, s!"skipping adb chatter: {line}"⟩
  | .withoutSerial line => some ⟨.debug, s!"skipping device line with empty serial: {quoted line}"⟩
  | .withoutState line => some ⟨.debug, s!"skipping device line without state: {quoted line}"⟩
  | _ => none

/-- The lines after the header; none when there is no header. -/
def rows (output : String) : List Line :=
  (((lines output.toList).dropWhile (!header.isPrefixOf ·)).drop 1).map Line.read

def devices (output : String) : List Device := (rows output).filterMap Line.device?

def notes (output : String) : List Event := (rows output).filterMap Line.note?

end DebugBridge.Listing
