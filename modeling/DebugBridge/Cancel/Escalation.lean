/-!
# Repeated requests to stop

The first request stops the work, so that what was set up is taken down again; the second stops the
taking down as well; from the third on nothing is left to stop and the program ends at once.
-/

namespace DebugBridge.Cancel

inductive Escalation where
  | stopWork
  | stopTeardown
  | giveUp
  deriving DecidableEq, Repr

/-- The effect of the `n`-th request, counted from one. -/
def escalate (n : Nat) : Escalation :=
  if n ≤ 1 then .stopWork else if n = 2 then .stopTeardown else .giveUp

def workToken : String := "work"

def teardownToken : String := "teardown"

end DebugBridge.Cancel
