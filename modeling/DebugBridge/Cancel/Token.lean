/-!
# Cancellation tokens

A token belongs to one logical operation. The worker arms it with the resource it is about to block
on and disarms it afterwards; whoever cancels first raises the flag and then takes the armed
resource, in order to force it closed. Both parties only ever do one of the four steps below at a
time: a flag once raised stays, and after it nothing can be armed, so a worker never begins to block
where nobody would wake it.
-/

namespace DebugBridge.Cancel

/-- What a worker can be blocked on. -/
inductive Resource where
  | process (child : Nat)
  | socket (socket : Nat)
  deriving DecidableEq, Repr

/-- A cancellation token. -/
structure Token where
  interrupted : Bool := false
  armed : Option Resource := none
  deriving DecidableEq, Repr

namespace Token

/-- Hold the resource, which replaces whatever was held; refused once the flag is up. -/
def arm (r : Resource) (t : Token) : Bool × Token :=
  if t.interrupted then (false, t) else (true, { t with armed := some r })

/-- Forget the resource. -/
def disarm (t : Token) : Token := { t with armed := none }

/-- The first half of an interrupt: the flag goes up. -/
def raise (t : Token) : Token := { t with interrupted := true }

/-- The second half of an interrupt: the resource is handed over to be closed. -/
def take (t : Token) : Option Resource × Token := (t.armed, t.disarm)

@[simp] theorem arm_of_interrupted {t : Token} (h : t.interrupted = true) (r : Resource) :
    t.arm r = (false, t) := by simp [arm, h]

@[simp] theorem arm_of_not_interrupted {t : Token} (h : t.interrupted = false) (r : Resource) :
    t.arm r = (true, { t with armed := some r }) := by simp [arm, h]

@[simp] theorem interrupted_arm (r : Resource) (t : Token) :
    (t.arm r).2.interrupted = t.interrupted := by
  unfold arm
  split <;> rfl

@[simp] theorem interrupted_disarm (t : Token) : t.disarm.interrupted = t.interrupted := rfl

@[simp] theorem interrupted_raise (t : Token) : t.raise.interrupted = true := rfl

@[simp] theorem interrupted_take (t : Token) : t.take.2.interrupted = t.interrupted := rfl

@[simp] theorem armed_disarm (t : Token) : t.disarm.armed = none := rfl

@[simp] theorem armed_raise (t : Token) : t.raise.armed = t.armed := rfl

@[simp] theorem armed_take (t : Token) : t.take.2.armed = none := rfl

end Token
end DebugBridge.Cancel
