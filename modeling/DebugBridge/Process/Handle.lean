import DebugBridge.Event
import DebugBridge.Process.Outcome

/-!
# Handles on real children

The system knows when a child has ended; the handle learns it by asking, and from then on answers
from its own record. Reaping gives up the system's side, after which the record is all there is and
a kill reaches nobody.
-/

namespace DebugBridge

/-- What the system says when it is asked about a child. -/
inductive News where
  | running
  | ended (status : Status)
  | failed (cause : Fault)
  deriving DecidableEq, Repr

/-- A child of the system and what its parent knows about it. -/
structure Handle where
  pid : Nat := 0
  /-- How the child ended, if it has. -/
  status? : Option Status := none
  /-- The parent has collected the status, and the system may use the number again. -/
  collected : Bool := false
  /-- The outcome that the parent has on record. -/
  known? : Option Outcome := none
  released : Bool := false
  /-- How many signals the parent has sent. -/
  signals : Nat := 0
  events : List Event := []
  deriving DecidableEq, Repr

namespace Handle

/-- The child ends by itself; an end comes only once. -/
def finish (s : Status) (h : Handle) : Handle := { h with status? := some (h.status?.getD s) }

def outcome? (h : Handle) : Option Outcome := h.status?.map Status.outcome

def news (h : Handle) : News := (h.status?.map .ended).getD .running

/-- One look at the child: its outcome, or nothing while it runs. The system is asked only for what
is not on record; where it cannot tell, the outcome counts as unknown and the child is kept. -/
def hear (reap : Bool) (news : News) (h : Handle) : Option Outcome × Handle :=
  match h.known? with
  | some o => (some o, { h with released := h.released || reap })
  | none =>
    if h.released then (some .unknown, h)
    else match news with
      | .running => (none, h)
      | .ended s =>
        (some s.outcome,
          { h with collected := true, known? := some s.outcome, released := reap })
      | .failed cause =>
        let warning := s!"could not wait for process {h.pid}: {cause.message}"
        (some .unknown, { h with known? := some .unknown, events := ⟨.warn, warning⟩ :: h.events })

/-- A look at the child when the system knows everything at once. -/
def poll (reap : Bool) (h : Handle) : Option Outcome × Handle := h.hear reap h.news

/-- Kill the child, unless the system refuses: what the kill reports. A child that is released, or
whose status was collected, is sent no signal. -/
def kill (refusal? : Option Fault) (h : Handle) : Option Fault × Handle :=
  if h.released || h.collected then (none, h)
  else match refusal? with
    | some cause => (some cause, h)
    | none => (none, { h.finish .signalled with signals := h.signals + 1 })

theorem outcome?_finish (s : Status) (h : Handle) :
    (h.finish s).outcome? = some (h.outcome?.getD s.outcome) := by
  cases e : h.status? <;> simp [outcome?, finish, e]

end Handle
end DebugBridge
