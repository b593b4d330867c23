import DebugBridge.Process.Programs
import DebugBridge.Scenario.Direct

/-!
# Real commands without a bridge

A program of the system is started, its output may be captured, and calls are made on its handle. A
program that takes time still runs when the first call comes.
-/

namespace DebugBridge.Scenario

structure NativeReport where
  output? : Option Capture
  results : List CallResult

namespace Native

/-- One call on a handle; a wait lasts until the program has come to its outcome, and a program that
comes to none keeps it waiting. -/
def makeCall (own? : Option Status) (call : Call) (h : Handle) : Option (CallResult × Handle) :=
  match call with
  | .kill =>
    let (fault?, h) := h.kill none
    some (.killed fault?.isNone, h)
  | _ =>
    match h.poll (call = .reap) with
    | (some o, h) => some (.outcome o, h)
    | (none, h) => own?.bind fun own =>
      match (h.finish own).poll (call = .reap) with
      | (some o, h) => some (.outcome o, h)
      | (none, _) => none

def makeCalls (own? : Option Status) : List Call → Handle → Option (List CallResult)
  | [], _ => some []
  | call :: calls, h =>
    (makeCall own? call h).bind fun (r, h) => (makeCalls own? calls h).map (r :: ·)

/-- Start a program and make calls on it; nothing when one of them blocks for ever. -/
def run? (argv : List String) (capture? : Option Nat) (calls : List Call) :
    Except SpawnError (Option NativeReport) :=
  (Programs.launch argv).map fun e =>
    let output? := capture?.map fun limit => (readBounded (e.output.visible limit) limit).1
    let atOnce := !e.slow || output?.any (·.isComplete)
    let begun : Handle := {}
    let h := match e.status? with
      | some s => if atOnce then begun.finish s else begun
      | none => if output?.isSome then begun.finish .signalled else begun
    (makeCalls e.status? calls h).map (⟨output?, ·⟩)

end Native
end DebugBridge.Scenario
