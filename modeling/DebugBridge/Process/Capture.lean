import DebugBridge.Process.Outcome

/-!
# Captured output

What a child writes, and how its output ends. A bounded read takes at most one byte more than its
limit: enough to know that there is more, and no more than that.
-/

namespace DebugBridge

/-- What comes after the bytes that a child writes at once. -/
inductive Ending where
  /-- End of file, once the child has ended. -/
  | closed
  /-- Reading on fails. -/
  | broken (cause : Fault)
  /-- The same bytes over and over for as long as the child runs. -/
  | endless
  /-- The pipe stays open even after the child has ended. -/
  | held
  deriving DecidableEq, Repr

structure Output where
  bytes : List UInt8 := []
  ending : Ending := .closed
  deriving DecidableEq, Repr

inductive Capture where
  /-- The whole output. -/
  | complete (bytes : List UInt8)
  /-- The part within the limit of an output that is longer. -/
  | overflow (head : List UInt8)
  deriving DecidableEq, Repr

def Capture.isComplete : Capture → Bool
  | .complete _ => true
  | .overflow _ => false

/-- Read to the end of the output, or one byte beyond the limit; also what stays in the pipe. -/
def readBounded (bytes : List UInt8) (limit : Nat) : Capture × List UInt8 :=
  if (bytes.drop limit).isEmpty then (.complete bytes, [])
  else (.overflow (bytes.take limit), bytes.drop (limit + 1))

theorem readBounded_of_le {bytes : List UInt8} {limit : Nat} (h : bytes.length ≤ limit) :
    readBounded bytes limit = (.complete bytes, []) := by
  simp [readBounded, List.drop_eq_nil_of_le h]

theorem readBounded_of_lt {bytes : List UInt8} {limit : Nat} (h : limit < bytes.length) :
    readBounded bytes limit = (.overflow (bytes.take limit), bytes.drop (limit + 1)) := by
  have : bytes.drop limit ≠ [] := by
    simp [List.drop_eq_nil_iff]
    omega
  simp [readBounded, this]

/-- The first `n` bytes of an output that repeats; nothing repeated is nothing. -/
def repeated (bytes : List UInt8) (n : Nat) : List UInt8 :=
  (List.replicate (n / bytes.length) bytes).flatten ++ bytes.take (n % bytes.length)

/-- The bytes among which a bounded read finds its answer. -/
def Output.visible (o : Output) (limit : Nat) : List UInt8 :=
  match o.ending with
  | .endless => repeated o.bytes (limit + 1)
  | _ => o.bytes

end DebugBridge
