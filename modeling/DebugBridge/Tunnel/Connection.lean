import DebugBridge.Tunnel.State

/-!
# Connections through a tunnel

In reverse direction the device's connection is accepted. In forward direction the bridge accepts a
connection even when nothing listens on the device, and then closes it: an attempt counts only once
the device has sent its one byte of greeting, and a limited number of attempts is made with a pause
between two of them.
-/

namespace DebugBridge.Tunnel

def accept (t : Tunnel) (token : String) : Act (Except TunnelError Nat) := do
  match t.listener?, t.direction? with
  | some listener, some .reverse =>
    return (← Net.accept token listener).mapError TunnelError.ofNet
  | _, _ => return .error .notReverse

def greet (token : String) (port : Nat) : Act (Except TunnelError Nat) := do
  match ← Net.connect token port with
  | .error e => return .error (.ofNet e)
  | .ok stream =>
    match ← Net.receive token stream 1 with
    | .error e => return .error (.ofNet e)
    | .ok [] => return .error .noGreeting
    | .ok _ => return .ok stream

/-- While there are attempts left, the number of the next one does not overflow. -/
theorem toNat_next {attempts attempt : UInt32} (left : ¬ attempts ≤ attempt) :
    (attempt + 1).toNat = attempt.toNat + 1 := by
  have fewer : attempt.toNat < attempts.toNat := UInt32.not_le.mp left
  have bounded := attempts.toNat_lt
  rw [UInt32.toNat_add]
  apply Nat.mod_eq_of_lt
  simp only [UInt32.toNat_one]
  omega

def connectWith (token : String) (port : Nat) (attempts : UInt32) (delay : Nat)
    (attempt : UInt32) : Act (Except TunnelError Nat) := do
  match ← greet token port with
  | .ok stream =>
    note .debug s!"connected to forward tunnel after {attempt} attempt(s)"
    return .ok stream
  | .error .interrupted => return .error .interrupted
  | .error e =>
    if attempts ≤ attempt then return .error e
    else
      note .debug s!"connection attempt {attempt}/{attempts} failed: {e.message}"
      if ← sleep token delay then connectWith token port attempts delay (attempt + 1)
      else return .error .interrupted
termination_by attempts.toNat - attempt.toNat
decreasing_by
  have fewer : attempt.toNat < attempts.toNat := UInt32.not_le.mp ‹_›
  have next := toNat_next ‹_›
  omega

def connect (t : Tunnel) (token : String) (attempts : UInt32) (delay : Nat) :
    Act (Except TunnelError Nat) := do
  if t.direction? = some .forward then connectWith token t.localPort (max attempts 1) delay 1
  else return .error .notForward

end DebugBridge.Tunnel
