import DebugBridge.Process.Outcome

/-!
# Failures of bridge commands

A failure names the bridge command it belongs to. Two kinds matter to callers: the command was
cancelled, or there is no bridge executable.
-/

namespace DebugBridge

inductive BridgeError where
  | spawn (command : String) (cause : SpawnError)
  | nonZeroExit (command : String) (code : Int)
  | abnormalExit (command : String)
  /-- The output is larger than what was reserved for it. -/
  | captureOverflow (command : String) (limit : Nat)
  /-- The command ran, but its answer is not that it is connected. -/
  | connectRejected (target detail : String)
  | io (command : String) (cause : Fault)
  | interrupted
  deriving DecidableEq, Repr

namespace BridgeError

def message : BridgeError → String
  | .spawn command cause => s!"could not run adb {command}: {cause.message}"
  | .nonZeroExit command code => s!"adb {command} returned with value {code}"
  | .abnormalExit command => s!"adb {command} terminated abnormally"
  | .captureOverflow command limit => s!"adb {command} output is larger than {limit} bytes"
  | .connectRejected target detail => s!"could not connect to {target}: {detail}"
  | .io command cause => s!"could not read adb {command} output: {cause.message}"
  | .interrupted => "interrupted"

def isInterrupted : BridgeError → Bool
  | .interrupted => true
  | _ => false

def isMissingBinary : BridgeError → Bool
  | .spawn _ (.missing _) => true
  | _ => false

end BridgeError
end DebugBridge
