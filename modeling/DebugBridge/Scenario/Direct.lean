import DebugBridge.Host.Process
import DebugBridge.Process.Script

/-!
# Scripted commands without a bridge

A script can be used by itself: commands are handed to it in order, each is captured or has a number
of calls made on its child, and afterwards one can ask which commands came and which children were
killed.
-/

namespace DebugBridge.Scenario

structure DirectCall where
  argv : List String
  /-- The limit for captured output, if the output is captured. -/
  capture? : Option Nat := none
  /-- The child is killed before its output is read. -/
  killFirst : Bool := false
  calls : List Call := []
  deriving DecidableEq, Repr

inductive CallResult where
  | outcome (o : Outcome)
  | killed (works : Bool)
  deriving DecidableEq, Repr

inductive DirectResult where
  | refused (e : SpawnError)
  | called (pid : Nat) (results : List CallResult)
  | captured (pid : Nat) (output : Except Fault Capture) (outcome : Outcome)

structure DirectReport where
  results : List DirectResult
  recorded : List (List String)
  /-- For every child that was started, whether it was killed. -/
  killed : List Bool

namespace Direct

def replies (s : Script) : List (List String) → List Reply
  | [] => []
  | argv :: rest =>
    let (reply, s) := s.answer argv
    reply :: replies s rest

/-- A backend that gives these replies in order. -/
def playBack (rs : List Reply) : Backend := fun earlier _ => rs[earlier.length]?.getD {}

def makeCall (child : Nat) : Call → Act CallResult
  | .kill => return .killed (← kill child).isNone
  | .reap => return .outcome (← wait child true)
  | _ => return .outcome (← wait child false)

def perform (c : DirectCall) : Act DirectResult := do
  match ← spawn c.argv (if c.capture?.isSome then .capture else .run) with
  | .error e => return .refused e
  | .ok (child, output) =>
    let pid := ((← get).children child).pid
    match c.capture? with
    | none => return .called pid (← c.calls.mapM (makeCall child))
    | some limit =>
      if c.killFirst then let _ ← kill child
      let result ← readOutput child output limit
      return .captured pid result (← wait child false)

def report (calls : List DirectCall) : Act DirectReport := do
  let results ← calls.mapM perform
  let h ← get
  return ⟨results, h.commands.reverse.map (·.argv),
    (List.range h.childCount).map fun child => (h.children child).killed⟩

/-- Hand commands to a script in order; nothing when one of them blocks for ever. -/
def run? (s : Script) (calls : List DirectCall) : Option DirectReport :=
  let argvs := (calls.map (·.argv)).filter (!·.isEmpty)
  match report calls { backend := playBack (replies s argvs) } with
  | .ok r _ => some r
  | .error _ _ => none

end Direct
end DebugBridge.Scenario
