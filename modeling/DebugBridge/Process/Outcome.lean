import DebugBridge.Fault

/-!
# How a command ends

A command that was started either exits with a code or ends abnormally. A process of the system that
has ended has a status, from which the outcome is told. A command that could not be started has one
of three reasons.
-/

namespace DebugBridge

inductive Outcome where
  | code (n : Int)
  | unknown
  deriving DecidableEq, Repr

/-- Only a regular exit with code zero is a success. -/
def Outcome.isSuccess : Outcome → Bool
  | .code n => n = 0
  | .unknown => false

inductive Status where
  | exited (code : UInt8)
  | signalled
  deriving DecidableEq, Repr

def Status.outcome : Status → Outcome
  | .exited code => .code code.toNat
  | .signalled => .unknown

/-- Why a child process could not be started. -/
inductive SpawnError where
  /-- No such executable. -/
  | missing (program : String)
  | failed (program : String) (cause : Fault)
  | emptyCommand
  deriving DecidableEq, Repr

def SpawnError.message : SpawnError → String
  | .missing program => s!"executable not found: {program}"
  | .failed program cause => s!"could not spawn {program}: {cause.message}"
  | .emptyCommand => "empty command line"

@[simp] theorem Outcome.isSuccess_code (n : Int) :
    (Outcome.code n).isSuccess = decide (n = 0) := rfl

@[simp] theorem Outcome.isSuccess_unknown : Outcome.unknown.isSuccess = false := rfl

end DebugBridge
