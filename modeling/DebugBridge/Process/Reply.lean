import DebugBridge.Process.Capture

/-!
# What a command does

A reply says what becomes of one command: it ends by itself, runs until somebody kills it, or cannot
be started; and what it writes. A backend gives the reply to every command, from the command's
arguments and the arguments of all commands before it.
-/

namespace DebugBridge

inductive Fate where
  | exits (outcome : Outcome)
  /-- It runs until it is killed. -/
  | hangs
  /-- There is no such executable. -/
  | missing
  | refused (cause : Fault)
  deriving DecidableEq, Repr

structure Reply where
  fate : Fate := .exits (.code 0)
  output : Output := {}
  deriving DecidableEq, Repr

/-- Why a command with this fate cannot be started, if it cannot. -/
def Fate.spawnError? (program : String) : Fate → Option SpawnError
  | .missing => some (.missing program)
  | .refused cause => some (.failed program cause)
  | _ => none

def Fate.outcome? : Fate → Option Outcome
  | .exits outcome => some outcome
  | _ => none

/-- The reply to a command, given the argument vectors of the commands before it, latest first. -/
abbrev Backend := List (List String) → List String → Reply

end DebugBridge
