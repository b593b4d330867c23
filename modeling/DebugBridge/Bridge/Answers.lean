import DebugBridge.Bridge.Run
import DebugBridge.Device.Listing
import DebugBridge.Route
import DebugBridge.Text.Lines

/-!
# What the answers of queries mean

The bridge exits with zero whether or not it has connected, so a connection is read from its answer.
A single value ends at the first white space; tables are read by their own modules.
-/

namespace DebugBridge.Bridge

def connectedAnswer : String := "connected"

def connect (b : Bridge) (token address : String) : Act (Except BridgeError Unit) := do
  match ← b.ask token (.connect address) with
  | .error e => return .error e
  | .ok output =>
    let line := Text.firstLine output
    if connectedAnswer.toList.isPrefixOf output.toList then
      note .debug s!"adb connect {address}: {line}"
      return .ok ()
    else return .error (.connectRejected address line)

def property (b : Bridge) (token serial name : String) : Act (Except BridgeError String) := do
  return (← b.ask token (.property serial name)).map Text.firstToken

def serialNumber (b : Bridge) (token : String) : Act (Except BridgeError String) := do
  return (← b.ask token .serialNumber).map Text.firstToken

def devices (b : Bridge) (token : String) : Act (Except BridgeError (List Device)) := do
  match ← b.ask token .devices with
  | .error e => return .error e
  | .ok output =>
    noteAll (Listing.notes output)
    return .ok (Listing.devices output)

def address (b : Bridge) (token serial : String) : Act (Except BridgeError (Option String)) := do
  match ← b.ask token (.route serial) with
  | .error e => return .error e
  | .ok output =>
    noteAll (Route.notes output)
    return .ok (Route.address? output)

end DebugBridge.Bridge
