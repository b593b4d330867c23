import DebugBridge.Process.Reply

/-!
# Scripts

A script answers commands from rules. A rule has a pattern, which has to stand as one run among the
arguments, and a queue of replies. Of the rules that match, the one with the longest pattern
answers, and among equally long patterns the one registered last; each answer uses up one reply, but
the last one stays for good. `Script.answer` is this as a machine; `Script.reply` says the same
without state, by counting how often the rule has won before.
-/

namespace DebugBridge

/-- Whether `pattern` stands as one run in `argv`; no empty pattern does. -/
def occursIn (pattern : List String) : List String → Bool
  | [] => false
  | a :: argv => (!pattern.isEmpty && pattern.isPrefixOf (a :: argv)) || occursIn pattern argv

structure Rule where
  pattern : List String
  next : Reply
  later : List Reply := []
  deriving DecidableEq, Repr

namespace Rule

def accepts (r : Rule) (argv : List String) : Bool := occursIn r.pattern argv

/-- The rule after its next reply was used. -/
def advance (r : Rule) : Rule :=
  match r.later with
  | [] => r
  | reply :: later => { r with next := reply, later := later }

/-- The reply of the rule when it has answered `n` times before. -/
def nth (r : Rule) (n : Nat) : Reply :=
  (r.next :: r.later)[n]?.getD ((r.next :: r.later).getLast (by simp))

def append (r : Rule) (reply : Reply) : Rule := { r with later := r.later ++ [reply] }

end Rule

/-- A table of rules, in the order in which their patterns were registered. -/
structure Script where
  rules : List Rule := []
  otherwise : Reply := {}
  deriving DecidableEq, Repr

/-- The rule that stands when `r` comes after the best rule so far. -/
def Rule.better (argv : List String) (best? : Option Rule) (r : Rule) : Option Rule :=
  if r.accepts argv then
    match best? with
    | none => some r
    | some best => if best.pattern.length ≤ r.pattern.length then some r else some best
  else best?

namespace Script

def on (s : Script) (pattern : List String) (reply : Reply) : Script :=
  if s.rules.any (·.pattern = pattern) then
    { s with rules := s.rules.map fun r => if r.pattern = pattern then r.append reply else r }
  else { s with rules := s.rules ++ [⟨pattern, reply, []⟩] }

/-- The rule that answers a command: of those that match, the last of the longest. -/
def winner? (s : Script) (argv : List String) : Option Rule := s.rules.foldl (Rule.better argv) none

def answer (s : Script) (argv : List String) : Reply × Script :=
  match s.winner? argv with
  | none => (s.otherwise, s)
  | some winner =>
    (winner.next,
      { s with rules := s.rules.map fun r => if r.pattern = winner.pattern then r.advance else r })

/-- The reply to a command after others: the winning rule's reply of the number of its earlier wins,
or its last reply when there are no more. -/
def reply (s : Script) : Backend := fun earlier argv =>
  match s.winner? argv with
  | none => s.otherwise
  | some winner =>
    winner.nth (earlier.countP fun a => (s.winner? a).any (·.pattern = winner.pattern))

end Script

def countCalls (pattern : List String) (calls : List (List String)) : Nat :=
  calls.countP (occursIn pattern)

end DebugBridge
