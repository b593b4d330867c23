import DebugBridge.Bridge.Answers
import DebugBridge.Device.Selection
import DebugBridge.Device.Table

/-!
# Choosing a device

The attached devices are listed and a selector is resolved against the listing. When it does not
resolve, the whole listing is reported with the matching devices marked, so that the user can see
why.
-/

namespace DebugBridge

inductive ChoiceError where
  | listing (cause : BridgeError)
  | selection (cause : SelectionError)
  deriving DecidableEq, Repr

namespace ChoiceError

def message : ChoiceError → String
  | .listing cause => s!"could not list ADB devices: {cause.message}"
  | .selection cause => cause.message

def isInterrupted : ChoiceError → Bool
  | .listing cause => cause.isInterrupted
  | .selection _ => false

end ChoiceError

def SelectionError.concernsListing : SelectionError → Bool
  | .notFound .. | .ambiguous .. => true
  | _ => false

def Bridge.choose (b : Bridge) (token : String) (selector : Selector) :
    Act (Except ChoiceError Device) := do
  match ← b.devices token with
  | .error cause =>
    if cause.isInterrupted then note .debug "device listing interrupted"
    else note .error s!"could not list ADB devices: {cause.message}"
    return .error (.listing cause)
  | .ok devices =>
    note .debug s!"{devices.length} device(s) listed"
    match Selection.select devices selector with
    | (.ok device, _) =>
      note .info s!"device selected: {device.serial} ({device.attachment.label})"
      return .ok device
    | (.error cause, listing) =>
      note .error cause.message
      if cause.concernsListing then
        noteAll ((Device.table listing).map fun line => ⟨.error, line⟩)
      return .error (.selection cause)

end DebugBridge
