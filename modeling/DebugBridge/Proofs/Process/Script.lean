import Mathlib.Data.List.Infix
import Mathlib.Data.List.Basic
import Mathlib.Logic.Function.Iterate
import DebugBridge.Proofs.Host.Calls
import DebugBridge.Scenario.Direct

/-!
# What a script answers

A script is built by registrations and then used up call by call. Its answers can be told from the
registrations alone: `Wins` says which pattern answers a command, and `Answered` which of the
replies registered for that pattern it is, by the number of earlier commands that the pattern
answered.
-/

namespace DebugBridge

abbrev Registration := List String × Reply

section spec
variable (ons : List Registration)

def repliesTo (pattern : List String) : List Reply := (ons.filter (·.1 = pattern)).map (·.2)

def firstOn (pattern : List String) : Nat := (ons.map (·.1)).idxOf pattern

/-- Whether a pattern answers a command: it is registered and not empty, stands as one run among the
arguments, and of the patterns of which that is true it is the longest one, or of several longest
ones the one that was first registered last. -/
structure Wins (argv pattern : List String) : Prop where
  registered : pattern ∈ ons.map (·.1)
  nonempty : pattern ≠ []
  occurs : pattern <:+: argv
  best : ∀ other ∈ ons.map (·.1), other ≠ [] → other <:+: argv →
    other.length < pattern.length ∨
      other.length = pattern.length ∧ firstOn ons other ≤ firstOn ons pattern

instance (argv pattern : List String) : Decidable (Wins ons argv pattern) :=
  decidable_of_iff (pattern ∈ ons.map (·.1) ∧ pattern ≠ [] ∧ pattern <:+: argv ∧
      ∀ other ∈ ons.map (·.1), other ≠ [] → other <:+: argv →
        other.length < pattern.length ∨
          other.length = pattern.length ∧ firstOn ons other ≤ firstOn ons pattern)
    ⟨fun ⟨registered, nonempty, occurs, best⟩ => ⟨registered, nonempty, occurs, best⟩,
      fun ⟨registered, nonempty, occurs, best⟩ => ⟨registered, nonempty, occurs, best⟩⟩

/-- What a command after some earlier ones is to be answered: by the pattern that wins it, with its
next reply or, when all are used up, its last one; by default if there is no pattern. -/
inductive Answered (otherwise : Reply) (earlier : List (List String)) (argv : List String) :
    Reply → Prop where
  | rule {pattern : List String} {r : Reply} : Wins ons argv pattern →
      (repliesTo ons pattern)[min (earlier.countP (Wins ons · pattern) + 1)
        (repliesTo ons pattern).length - 1]? = some r →
      Answered otherwise earlier argv r
  | default : (∀ pattern ∈ ons.map (·.1), pattern ≠ [] → ¬ pattern <:+: argv) →
      Answered otherwise earlier argv otherwise

end spec

def Script.build (otherwise : Reply) (ons : List Registration) : Script :=
  ons.foldl (fun s on => s.on on.1 on.2) { otherwise }

theorem occursIn_iff {pattern argv : List String} :
    occursIn pattern argv = true ↔ pattern ≠ [] ∧ pattern <:+: argv := by
  induction argv with
  | nil => simp [occursIn]
  | cons a argv ih =>
    simp only [occursIn, Bool.or_eq_true, Bool.and_eq_true, Bool.not_eq_true',
      List.isEmpty_eq_false_iff, List.isPrefixOf_iff_prefix, ih, List.infix_cons_iff]
    tauto

/-! ### Which rule wins -/

section winner
variable {argv : List String} {rules : List Rule}

def LastLongest (argv : List String) (rules : List Rule) (w : Rule) : Prop :=
  ∃ front back, rules = front ++ w :: back ∧ w.accepts argv = true ∧
    (∀ r ∈ front, r.accepts argv = true → r.pattern.length ≤ w.pattern.length) ∧
    ∀ r ∈ back, r.accepts argv = true → r.pattern.length < w.pattern.length

theorem LastLongest.single {r : Rule} (accepts : r.accepts argv = true)
    (others : ∀ q ∈ rules, q.accepts argv = true → q.pattern.length ≤ r.pattern.length) :
    LastLongest argv (rules ++ [r]) r :=
  ⟨rules, [], rfl, accepts, others, by simp⟩

theorem LastLongest.skip {w r : Rule} (best : LastLongest argv rules w)
    (beaten : r.accepts argv = true → r.pattern.length < w.pattern.length) :
    LastLongest argv (rules ++ [r]) w := by
  obtain ⟨front, back, rfl, accepts, before, behind⟩ := best
  refine ⟨front, back ++ [r], by simp, accepts, before, fun q mem => ?_⟩
  rcases List.mem_append.mp mem with mem | mem
  · exact behind q mem
  · rwa [List.mem_singleton.mp mem]

theorem LastLongest.le {w r : Rule} (best : LastLongest argv rules w) (mem : r ∈ rules)
    (accepts : r.accepts argv = true) : r.pattern.length ≤ w.pattern.length := by
  obtain ⟨front, back, rfl, -, before, behind⟩ := best
  rcases List.mem_append.mp mem with mem | mem
  · exact before r mem accepts
  · rcases List.mem_cons.mp mem with rfl | mem
    · exact le_rfl
    · exact (behind r mem accepts).le

inductive Elected (argv : List String) (rules : List Rule) : Option Rule → Prop where
  | nobody : (∀ r ∈ rules, r.accepts argv = false) → Elected argv rules none
  | winner {w : Rule} : LastLongest argv rules w → Elected argv rules (some w)

/-- By induction from the front: the best rule so far gives way to one that is not shorter. -/
theorem elected (argv : List String) (rules : List Rule) :
    Elected argv rules (rules.foldl (Rule.better argv) none) := by
  induction rules using List.reverseRecOn with
  | nil => exact .nobody fun r mem => absurd mem List.not_mem_nil
  | append_singleton rules r ih =>
    rw [List.foldl_append, List.foldl_cons, List.foldl_nil]
    generalize rules.foldl (Rule.better argv) none = best? at ih
    unfold Rule.better
    cases accepts : r.accepts argv with
    | false =>
      rw [if_neg Bool.false_ne_true]
      cases ih with
      | nobody none =>
        refine .nobody fun q mem => ?_
        rcases List.mem_append.mp mem with mem | mem
        · exact none q mem
        · rwa [List.mem_singleton.mp mem]
      | winner best => exact .winner (best.skip (by simp [accepts]))
    | true =>
      rw [if_pos rfl]
      cases ih with
      | nobody none => exact .winner (.single accepts fun q mem yes => by simp [none q mem] at yes)
      | @winner w best =>
        dsimp only
        split
        · next longer =>
          exact .winner (.single accepts fun q mem yes => (best.le mem yes).trans longer)
        · next shorter => exact .winner (best.skip fun _ => by omega)

end winner

/-! ### What registrations leave -/

/-- How the rules of a script come from its registrations: one for each pattern, in the order of the
first registrations, with the replies in theirs. -/
structure Registers (ons : List Registration) (rules : List Rule) : Prop where
  complete : ∀ pattern, (∃ r ∈ rules, r.pattern = pattern) ↔ pattern ∈ ons.map (·.1)
  ordered : rules.Pairwise fun r r' => firstOn ons r.pattern < firstOn ons r'.pattern
  queued : ∀ r ∈ rules, r.next :: r.later = repliesTo ons r.pattern

section registers
variable {ons : List Registration} {rules : List Rule} {pattern : List String} {reply : Reply}

theorem firstOn_concat (mem : pattern ∈ ons.map (·.1)) (on : Registration) :
    firstOn (ons ++ [on]) pattern = firstOn ons pattern := by
  rw [firstOn, List.map_append, List.idxOf_append_of_mem mem]
  rfl

theorem firstOn_new (new : pattern ∉ ons.map (·.1)) :
    firstOn (ons ++ [(pattern, reply)]) pattern = ons.length := by
  rw [firstOn, List.map_append, List.idxOf_append_of_notMem new]
  simp

theorem repliesTo_concat (ons : List Registration) (on : Registration) (pattern : List String) :
    repliesTo (ons ++ [on]) pattern =
      repliesTo ons pattern ++ if on.1 = pattern then [on.2] else [] := by
  rw [repliesTo, List.filter_append, List.map_append, ← repliesTo, List.filter_singleton]
  split <;> simp_all

theorem repliesTo_eq_nil (new : pattern ∉ ons.map (·.1)) : repliesTo ons pattern = [] := by
  rw [repliesTo, List.filter_eq_nil_iff.mpr, List.map_nil]
  intro on mem same
  exact new (List.mem_map.mpr ⟨on, mem, by simpa using same⟩)

theorem Registers.registered (registers : Registers ons rules) {r : Rule} (mem : r ∈ rules) :
    r.pattern ∈ ons.map (·.1) :=
  (registers.complete r.pattern).mp ⟨r, mem, rfl⟩

/-- A further reply for a pattern that has a rule. -/
theorem registers_append (registers : Registers ons rules) (known : pattern ∈ ons.map (·.1)) :
    Registers (ons ++ [(pattern, reply)])
      (rules.map fun r => if r.pattern = pattern then r.append reply else r) := by
  have patterns (r : Rule) :
      (if r.pattern = pattern then r.append reply else r).pattern = r.pattern := by
    split <;> rfl
  refine ⟨fun q => ?_, ?_, fun r' mem => ?_⟩
  · have same : q ∈ (ons ++ [(pattern, reply)]).map (·.1) ↔ q ∈ ons.map (·.1) := by
      rw [List.map_append, List.mem_append]
      exact ⟨fun mem => mem.elim id fun new => by simpa [List.mem_singleton.mp new] using known,
        .inl⟩
    rw [same, ← registers.complete q]
    simp [patterns]
  · rw [List.pairwise_map]
    refine registers.ordered.imp_of_mem fun {r r'} mem mem' earlier => ?_
    rwa [patterns, patterns, firstOn_concat (registers.registered mem),
      firstOn_concat (registers.registered mem')]
  · obtain ⟨r, inside, rfl⟩ := List.mem_map.mp mem
    rw [patterns, repliesTo_concat, ← registers.queued r inside]
    by_cases same : r.pattern = pattern
    · simp [same, Rule.append]
    · simp [same, Ne.symm same]

/-- The first reply for a pattern. -/
theorem registers_new (registers : Registers ons rules) (new : pattern ∉ ons.map (·.1)) :
    Registers (ons ++ [(pattern, reply)]) (rules ++ [⟨pattern, reply, []⟩]) := by
  refine ⟨fun q => ?_, ?_, fun r mem => ?_⟩
  · rw [List.map_append, List.mem_append, ← registers.complete q]
    simp [or_and_right, exists_or, eq_comm]
  · refine List.pairwise_append.mpr ⟨?_, List.pairwise_singleton _ _, fun r mem r' mem' => ?_⟩
    · refine registers.ordered.imp_of_mem fun {r r'} mem mem' earlier => ?_
      rwa [firstOn_concat (registers.registered mem), firstOn_concat (registers.registered mem')]
    · rw [List.mem_singleton.mp mem', firstOn_concat (registers.registered mem), firstOn_new new]
      have bound := List.idxOf_lt_length_of_mem (registers.registered mem)
      rwa [List.length_map] at bound
  · rw [repliesTo_concat]
    rcases List.mem_append.mp mem with mem | mem
    · have other : pattern ≠ r.pattern := fun same => new (same ▸ registers.registered mem)
      simp [registers.queued r mem, other]
    · rw [List.mem_singleton.mp mem]
      simp [repliesTo_eq_nil new]

theorem registers_build (otherwise : Reply) (ons : List Registration) :
    Registers ons (Script.build otherwise ons).rules := by
  induction ons using List.reverseRecOn with
  | nil => exact ⟨by simp [Script.build], .nil, by simp [Script.build]⟩
  | append_singleton ons on ih =>
    rw [Script.build, List.foldl_append, List.foldl_cons, List.foldl_nil, ← Script.build]
    have known : (∃ r ∈ (Script.build otherwise ons).rules, r.pattern = on.1) ↔
        on.1 ∈ ons.map (·.1) := ih.complete on.1
    unfold Script.on
    split
    · next any => exact registers_append ih (known.mp (by simpa using any))
    · next none => exact registers_new ih fun mem => none (by simpa using known.mpr mem)

theorem otherwise_build (otherwise : Reply) (ons : List Registration) :
    (Script.build otherwise ons).otherwise = otherwise := by
  induction ons using List.reverseRecOn with
  | nil => rfl
  | append_singleton ons on ih =>
    rw [Script.build, List.foldl_append, List.foldl_cons, List.foldl_nil, ← Script.build]
    unfold Script.on
    split <;> exact ih

end registers

/-! ### The winner by the registrations -/

section wins
variable {ons : List Registration} {argv pattern other : List String} {s : Script}

/-- At most one pattern wins. -/
theorem Wins.unique (wins : Wins ons argv pattern) (wins' : Wins ons argv other) :
    pattern = other := by
  have le := wins.best other wins'.registered wins'.nonempty wins'.occurs
  have ge := wins'.best pattern wins.registered wins.nonempty wins.occurs
  have same : firstOn ons pattern = firstOn ons other := by omega
  exact (List.idxOf_inj wins.registered).mp same

/-- The rule that wins is the one for the pattern that wins. -/
theorem wins_of_winner? (registers : Registers ons s.rules) {w : Rule}
    (won : s.winner? argv = some w) : w ∈ s.rules ∧ Wins ons argv w.pattern := by
  have winner := elected argv s.rules
  rw [← Script.winner?, won] at winner
  cases winner with | winner best =>
  obtain ⟨front, back, eq, accepts, before, behind⟩ := best
  obtain ⟨nonempty, occurs⟩ := occursIn_iff.mp accepts
  have mem : w ∈ s.rules := by simp [eq]
  refine ⟨mem, registers.registered mem, nonempty, occurs, fun other known filled inside => ?_⟩
  obtain ⟨r, place, rfl⟩ := (registers.complete other).mpr known
  have accepted : r.accepts argv = true := occursIn_iff.mpr ⟨filled, inside⟩
  have ordered := registers.ordered
  rw [eq, List.pairwise_append] at ordered
  rw [eq, List.mem_append, List.mem_cons] at place
  rcases place with place | rfl | place
  · have earlier := ordered.2.2 r place w List.mem_cons_self
    have short := before r place accepted
    omega
  · exact .inr ⟨rfl, le_rfl⟩
  · exact .inl (behind r place accepted)

theorem winner?_eq_none (registers : Registers ons s.rules) (none : s.winner? argv = none) :
    ∀ pattern ∈ ons.map (·.1), pattern ≠ [] → ¬ pattern <:+: argv := by
  have nobody := elected argv s.rules
  rw [← Script.winner?, none] at nobody
  cases nobody with | nobody refuse =>
  intro pattern known filled inside
  obtain ⟨r, mem, rfl⟩ := (registers.complete pattern).mpr known
  have accepted : r.accepts argv = true := occursIn_iff.mpr ⟨filled, inside⟩
  rw [refuse r mem] at accepted
  cases accepted

theorem winner?_of_wins (registers : Registers ons s.rules) (wins : Wins ons argv pattern) :
    ∃ w, s.winner? argv = some w ∧ w.pattern = pattern := by
  cases won : s.winner? argv with
  | none =>
    exact absurd wins.occurs (winner?_eq_none registers won pattern wins.registered wins.nonempty)
  | some w => exact ⟨w, rfl, (wins_of_winner? registers won).2.unique wins⟩

theorem wins_iff (registers : Registers ons s.rules) :
    (s.winner? argv).any (·.pattern = pattern) = true ↔ Wins ons argv pattern := by
  constructor
  · intro any
    obtain ⟨w, won, same⟩ := (Option.any_eq_true _ _).mp any
    exact of_decide_eq_true same ▸ (wins_of_winner? registers won).2
  · intro wins
    obtain ⟨w, won, same⟩ := winner?_of_wins registers wins
    simp [won, same]

end wins

/-! ### Answers -/

section answers
variable {ons : List Registration} {s : Script}

/-- A rule's replies come in order, and the last one stays. -/
theorem getElem?_nth (r : Rule) (n : Nat) :
    (r.next :: r.later)[min (n + 1) (r.next :: r.later).length - 1]? = some (r.nth n) := by
  unfold Rule.nth
  generalize_proofs nonempty
  generalize r.next :: r.later = queue at nonempty
  by_cases inside : n < queue.length
  · rw [show min (n + 1) queue.length - 1 = n by omega, List.getElem?_eq_getElem inside]
    rfl
  · have missing : queue[n]? = none := List.getElem?_eq_none (by omega)
    rw [show min (n + 1) queue.length - 1 = queue.length - 1 by omega, missing,
      ← List.getLast?_eq_getElem?, List.getLast?_eq_some_getLast nonempty]
    rfl

/-- What a script replies by counting is what its registrations say. -/
theorem reply_iff (registers : Registers ons s.rules) {earlier : List (List String)}
    {argv : List String} {r : Reply} :
    s.reply earlier argv = r ↔ Answered ons s.otherwise earlier argv r := by
  have count (pattern : List String) :
      earlier.countP (fun a => (s.winner? a).any (·.pattern = pattern)) =
        earlier.countP (Wins ons · pattern) :=
    List.countP_congr fun a _ => (wins_iff registers).trans (by simp)
  unfold Script.reply
  cases won : s.winner? argv with
  | none =>
    have nobody := winner?_eq_none registers won
    dsimp only
    constructor
    · rintro rfl
      exact .default nobody
    · rintro (⟨wins, -⟩ | -)
      · exact absurd wins.occurs (nobody _ wins.registered wins.nonempty)
      · rfl
  | some w =>
    obtain ⟨mem, wins⟩ := wins_of_winner? registers won
    have next := getElem?_nth w (earlier.countP (Wins ons · w.pattern))
    rw [registers.queued w mem] at next
    dsimp only
    rw [count]
    constructor
    · rintro rfl
      exact .rule wins next
    · rintro (⟨wins', next'⟩ | none)
      · rw [← wins.unique wins', next] at next'
        exact Option.some.inj next'
      · exact absurd wins.occurs (none _ wins.registered wins.nonempty)

theorem pattern_advance (r : Rule) : r.advance.pattern = r.pattern := by
  unfold Rule.advance
  split <;> rfl

theorem pattern_advance_iterate (n : Nat) (r : Rule) :
    (Rule.advance^[n] r).pattern = r.pattern := by
  induction n with
  | zero => rfl
  | succ n ih => rw [Function.iterate_succ_apply', pattern_advance, ih]

/-- The replies that are left after `n` answers. -/
theorem queue_advance_iterate (n : Nat) (r : Rule) :
    (Rule.advance^[n] r).next :: (Rule.advance^[n] r).later =
      (r.next :: r.later).drop (min n r.later.length) := by
  induction n generalizing r with
  | zero => simp
  | succ n ih =>
    rw [Function.iterate_succ_apply, ih]
    obtain ⟨pattern, next, later⟩ := r
    cases later with
    | nil => simp [Rule.advance]
    | cons reply later => simp [Rule.advance, Nat.add_min_add_right]

theorem next_advance_iterate (n : Nat) (r : Rule) : (Rule.advance^[n] r).next = r.nth n := by
  have queue := congrArg List.head? (queue_advance_iterate n r)
  have nth := getElem?_nth r n
  rw [List.head?_cons, List.head?_drop] at queue
  rw [List.length_cons, show min (n + 1) (r.later.length + 1) - 1 = min n r.later.length by omega,
    ← queue] at nth
  exact Option.some.inj nth

/-- Changing the rules but not their patterns does not change which one wins. -/
theorem foldl_better_map {f : Rule → Rule} (patterns : ∀ r, (f r).pattern = r.pattern)
    (argv : List String) (rules : List Rule) (best? : Option Rule) :
    (rules.map f).foldl (Rule.better argv) (best?.map f) =
      (rules.foldl (Rule.better argv) best?).map f := by
  have step (best? : Option Rule) (r : Rule) :
      Rule.better argv (best?.map f) (f r) = (Rule.better argv best? r).map f := by
    unfold Rule.better Rule.accepts
    rw [patterns]
    split
    · cases best? with
      | none => rfl
      | some best =>
        dsimp only [Option.map_some]
        rw [patterns]
        split <;> rfl
    · rfl
  induction rules generalizing best? with
  | nil => rfl
  | cons r rules ih => rw [List.map_cons, List.foldl_cons, List.foldl_cons, step, ih]

/-- A rule as some commands leave it: it has been advanced as often as it has won. -/
def Script.used (s : Script) (earlier : List (List String)) (r : Rule) : Rule :=
  Rule.advance^[earlier.countP fun a => (s.winner? a).any (·.pattern = r.pattern)] r

def Script.after (s : Script) (earlier : List (List String)) : Script :=
  { s with rules := s.rules.map (s.used earlier) }

theorem winner?_after (s : Script) (earlier : List (List String)) (argv : List String) :
    (s.after earlier).winner? argv = (s.winner? argv).map (s.used earlier) :=
  foldl_better_map (fun r => pattern_advance_iterate _ r) argv s.rules none

theorem used_concat (s : Script) (earlier : List (List String)) (argv : List String) (r : Rule) :
    s.used (earlier ++ [argv]) r =
      if (s.winner? argv).any (·.pattern = r.pattern) then (s.used earlier r).advance
      else s.used earlier r := by
  unfold Script.used
  rw [List.countP_append, List.countP_singleton]
  split
  · rw [Function.iterate_succ_apply']
  · rfl

/-- One answer of the machine. -/
theorem answer_after (s : Script) (earlier : List (List String)) (argv : List String) :
    (s.after earlier).answer argv = (s.reply earlier argv, s.after (earlier ++ [argv])) := by
  unfold Script.answer Script.reply
  rw [winner?_after]
  cases won : s.winner? argv with
  | none => simp [Script.after, used_concat, won]
  | some w =>
    have patterns (r : Rule) : (s.used earlier r).pattern = r.pattern := pattern_advance_iterate _ r
    have next : (s.used earlier w).next =
        w.nth (earlier.countP fun a => (s.winner? a).any (·.pattern = w.pattern)) :=
      next_advance_iterate _ w
    simp [Script.after, used_concat, won, patterns, next, eq_comm]

open Scenario in
/-- The machine answers as the script that counts. -/
theorem replies_after (s : Script) (earlier argvs : List (List String)) :
    Direct.replies (s.after earlier) argvs =
      argvs.mapIdx fun j argv => s.reply (earlier ++ argvs.take j) argv := by
  induction argvs generalizing earlier with
  | nil => rfl
  | cons argv argvs ih =>
    rw [Direct.replies, answer_after]
    dsimp only
    rw [ih, List.mapIdx_cons]
    simp

end answers

/-! ### Records -/

namespace Scenario.Direct

section records
variable {token : String} {child : Nat} {h h' : Host}

/-- What is asked of a child starts nothing. -/
theorem commands_of_within {α : Type} {m : Act α} {a : α}
    (asks : Act.Within (Host.Tending token child) m) (ran : m h = .ok a h') :
    h'.commands = h.commands :=
  (Host.quiet_of_tended (asks.ok ran)).commands

theorem within_makeCall (call : Call) :
    Act.Within (Host.Tending token child) (makeCall child call) := by
  unfold makeCall
  split
  · exact Act.within_bind (within_kill (Host.attentive_tending token child)) fun _ =>
      Act.within_pure _
  · exact Act.within_bind (within_wait true) fun _ => Act.within_pure _
  · exact Act.within_bind (within_wait false) fun _ => Act.within_pure _

theorem within_makeCalls (calls : List Call) :
    Act.Within (Host.Tending token child) (calls.mapM (makeCall child)) := by
  induction calls with
  | nil => exact Act.within_pure _
  | cons call calls ih =>
    rw [List.mapM_cons]
    exact Act.within_bind (within_makeCall call) fun _ => Act.within_bind ih fun _ =>
      Act.within_pure _

/-- A command is recorded when it is handed over, whatever becomes of it. -/
theorem spawn_commands {argv : List String} {mode : Mode}
    {result : Except SpawnError (Nat × Output)} (nonempty : argv ≠ [])
    (ran : spawn argv mode h = .ok result h') :
    h'.commands.map (·.argv) = argv :: h.commands.map (·.argv) := by
  obtain ⟨program, arguments, rfl⟩ := List.exists_cons_of_ne_nil nonempty
  have handed : (h.start (program :: arguments) mode).2.commands.map (·.argv) =
      (program :: arguments) :: h.commands.map (·.argv) := by
    cases e : (h.replyTo (program :: arguments)).fate.spawnError? program with
    | some cause => rw [Host.start_refused e, List.map_cons]
    | none =>
      obtain ⟨pid, stdout, eq⟩ := Host.start_child e mode
      rw [eq, List.map_cons]
  have struck := Host.quiet_of_tended (Host.strike_within (Host.tolerant_tending "" 0)
    h.commands.length .spawn (h.start (program :: arguments) mode).2)
  cases ran
  rw [← handed]
  exact congrArg (List.map (·.argv)) struck.commands

theorem perform_commands {c : DirectCall} {result : DirectResult} (nonempty : c.argv ≠ [])
    (ran : perform c h = .ok result h') :
    h'.commands.map (·.argv) = c.argv :: h.commands.map (·.argv) := by
  unfold perform at ran
  obtain ⟨started, h₁, spawned, ran⟩ := Act.ok_of_bind ran
  rw [← spawn_commands nonempty spawned]
  cases started with
  | error e =>
    cases ran
    rfl
  | ok started =>
    obtain ⟨child, output⟩ := started
    refine congrArg (List.map (·.argv))
      (commands_of_within (?_ : Act.Within (Host.Tending "" child) _) ran)
    refine Act.within_bind Act.within_get fun _ => ?_
    dsimp only
    split
    · exact Act.within_bind (within_makeCalls c.calls) fun _ => Act.within_pure _
    · next limit _ =>
      have attentive := Host.attentive_tending "" child
      have reading : Act.Within (Host.Tending "" child) (readOutput child output limit) :=
        within_readOutput attentive.toReceptive output limit
      split
      · refine Act.within_bind (within_kill attentive) fun _ => ?_
        exact Act.within_bind reading fun _ => Act.within_bind (within_wait false) fun _ =>
          Act.within_pure _
      · exact Act.within_bind reading fun _ => Act.within_bind (within_wait false) fun _ =>
          Act.within_pure _

theorem mapM_perform_commands {calls : List DirectCall} {results : List DirectResult}
    (nonempty : ∀ c ∈ calls, c.argv ≠ []) (ran : calls.mapM perform h = .ok results h') :
    h'.commands.map (·.argv) = (calls.map (·.argv)).reverse ++ h.commands.map (·.argv) := by
  induction calls generalizing h results with
  | nil =>
    cases ran
    rfl
  | cons c calls ih =>
    obtain ⟨first, rest⟩ := List.forall_mem_cons.mp nonempty
    rw [List.mapM_cons] at ran
    obtain ⟨result, h₁, performed, ran⟩ := Act.ok_of_bind ran
    obtain ⟨results, h₂, more, ran⟩ := Act.ok_of_bind ran
    cases ran
    rw [ih rest more, perform_commands first performed]
    simp

theorem recorded_of_run? {s : Script} {calls : List DirectCall} {report : DirectReport}
    (nonempty : ∀ c ∈ calls, c.argv ≠ []) (ran : run? s calls = some report) :
    report.recorded = calls.map (·.argv) := by
  unfold run? at ran
  dsimp only at ran
  split at ran
  · next r h' reported =>
    unfold Direct.report at reported
    obtain ⟨results, h₁, performed, reported⟩ := Act.ok_of_bind reported
    cases ran
    cases reported
    have commands := mapM_perform_commands nonempty performed
    simp only [List.map_nil, List.append_nil] at commands
    rw [List.map_reverse, commands, List.reverse_reverse]
  · cases ran

end records

end Scenario.Direct

theorem after_nil (s : Script) : s.after [] = s := by
  have unused : s.used [] = id := rfl
  rw [Script.after, unused, List.map_id]

/-- A script answers by its registrations, as a machine that uses its rules up and as the backend of
a host, which counts: each command gets the next reply of the pattern that wins it, or its last one,
and the default where no pattern wins. The recorded commands are those that were handed over, in
order. -/
theorem script_answers (otherwise : Reply) (ons : List Registration) :
    (∀ argvs, (Scenario.Direct.replies (Script.build otherwise ons) argvs).length = argvs.length ∧
      ∀ j r, (Scenario.Direct.replies (Script.build otherwise ons) argvs)[j]? = some r ↔
        ∃ argv, argvs[j]? = some argv ∧ Answered ons otherwise (argvs.take j) argv r) ∧
    (∀ earlier argv r, (Script.build otherwise ons).reply earlier argv = r ↔
      Answered ons otherwise earlier argv r) ∧
    ∀ calls report, (∀ c ∈ calls, c.argv ≠ []) →
      Scenario.Direct.run? (Script.build otherwise ons) calls = some report →
      report.recorded = calls.map (·.argv) := by
  have counted (earlier : List (List String)) (argv : List String) (r : Reply) :
      (Script.build otherwise ons).reply earlier argv = r ↔
        Answered ons otherwise earlier argv r := by
    rw [reply_iff (registers_build otherwise ons), otherwise_build]
  refine ⟨fun argvs => ?_, counted, fun calls report => Scenario.Direct.recorded_of_run?⟩
  have machine := replies_after (Script.build otherwise ons) [] argvs
  rw [after_nil] at machine
  refine ⟨by rw [machine, List.length_mapIdx], fun j r => ?_⟩
  rw [machine, List.getElem?_mapIdx, Option.map_eq_some_iff]
  simp only [List.nil_append, counted]

/-- Two patterns of one length, a longer one, an empty one, and a queue that runs out. -/
theorem script_answers_overlapping :
    let exit (code : Nat) : Reply := { fate := .exits (.code code) }
    let ons : List Registration :=
      [(["a"], exit 1), (["b"], exit 2), (["a"], exit 3), (["a", "c"], exit 4), ([], exit 5)]
    let argvs := [["a"], ["a", "b"], ["q", "a", "c"], ["a"], ["a", "q"], ["q"]]
    Scenario.Direct.replies (Script.build (exit 0) ons) argvs =
        [exit 1, exit 2, exit 4, exit 3, exit 3, exit 0] ∧
      Answered ons (exit 0) [["a"], ["a", "b"], ["q", "a", "c"], ["a"]] ["a", "q"] (exit 3) ∧
      ∃ report, Scenario.Direct.run? (Script.build (exit 0) ons) (argvs.map fun argv => { argv }) =
          some report ∧ report.recorded = argvs := by
  intro exit ons argvs
  have replies : Scenario.Direct.replies (Script.build (exit 0) ons) argvs =
      [exit 1, exit 2, exit 4, exit 3, exit 3, exit 0] := by decide
  have works : (Scenario.Direct.run? (Script.build (exit 0) ons)
      (argvs.map fun argv => { argv })).isSome = true := by decide +kernel
  obtain ⟨report, ran⟩ := Option.isSome_iff_exists.mp works
  obtain ⟨argv, fifth, answered⟩ := (((script_answers (exit 0) ons).1 argvs).2 4 (exit 3)).mp
    (by rw [replies]; rfl)
  obtain rfl : ["a", "q"] = argv := Option.some.inj fifth
  exact ⟨replies, answered, report, ran,
    (script_answers (exit 0) ons).2.2 _ report (by decide) ran⟩

end DebugBridge
