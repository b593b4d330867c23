import DebugBridge.Process.Outcome

/-!
# Child processes

A child has an outcome from the moment it ends, and the outcome never changes: a kill decides it
only for a child that still runs.
-/

namespace DebugBridge

inductive Call where
  | read
  /-- Wait and keep the child waitable. -/
  | wait
  /-- Wait and release what the system holds for the child. -/
  | reap
  | kill
  deriving DecidableEq, Repr

structure Child where
  pid : Nat := 0
  /-- The number of the command that it runs, if it runs one. -/
  command? : Option Nat := none
  outcome? : Option Outcome := none
  killed : Bool := false
  /-- What a kill reports although it works. -/
  killFault? : Option Fault := none
  deriving DecidableEq, Repr

namespace Child

def hasEnded (c : Child) : Bool := c.outcome?.isSome

def kill (c : Child) : Child :=
  { c with killed := true, outcome? := some (c.outcome?.getD .unknown) }

@[simp] theorem hasEnded_kill (c : Child) : c.kill.hasEnded = true := rfl

/-- A decided outcome survives every kill. -/
theorem outcome?_kill {c : Child} {o : Outcome} (h : c.outcome? = some o) :
    c.kill.outcome? = some o := by
  simp [kill, h]

@[simp] theorem kill_kill (c : Child) : c.kill.kill = c.kill := by simp [kill]

end Child
end DebugBridge
