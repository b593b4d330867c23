import DebugBridge.Proofs.Host.Calls

/-!
# Every order of the steps at a token

Workers arm and disarm a token, each in one step. A canceller interrupts it in two steps, between
which anybody may act: it raises the flag, and later it takes the armed resource and forces it
closed. In whatever order the steps come, nothing is armed once a canceller is done, and at most one
resource is ever forced closed: the one that was armed at that moment.
-/

namespace DebugBridge.Cancel

open Host

/-- A step at a token: of some worker, or of the canceller with a number. -/
inductive Move where
  | arm (r : Resource)
  | disarm
  /-- The first half of an interrupt. -/
  | raise (canceller : Nat)
  /-- The second half of an interrupt. -/
  | close (canceller : Nat)
  deriving DecidableEq, Repr

namespace Move

def apply (token : String) : Move → Host → Host
  | .arm r => Act.after (DebugBridge.arm token r)
  | .disarm => Act.after (DebugBridge.disarm token)
  | .raise _ => Host.raise token
  | .close _ => Host.closeArmed token

def onToken : Move → Token → Token
  | .arm r, t => (t.arm r).2
  | .disarm, t => t.disarm
  | .raise _, t => t.raise
  | .close _, t => t.take.2

/-- A step that takes nothing out of the token's hands: an arming only when it is refused. -/
def Keeps (token : String) (h : Host) : Move → Prop
  | .arm _ => h.interrupted token = true
  | .raise _ => True
  | .disarm | .close _ => False

def taking (token : String) (h : Host) : Move → List Resource
  | .close _ => (h.tokens token).armed.toList
  | _ => []

end Move

def played (token : String) (moves : List Move) (h : Host) : Host :=
  moves.foldl (fun h m => m.apply token h) h

/-- The host before the step with a number, or in the end. -/
def stateAt (token : String) (moves : List Move) (h : Host) (k : Nat) : Host :=
  played token (moves.take k) h

/-- Every canceller raises before it closes, and closes before it raises again; `midway` says who is
between its two halves. -/
def Orderly : (midway : Nat → Bool) → List Move → Prop
  | _, [] => True
  | midway, .raise c :: rest => midway c = false ∧ Orderly (assign midway c true) rest
  | midway, .close c :: rest => midway c = true ∧ Orderly (assign midway c false) rest
  | midway, .arm _ :: rest => Orderly midway rest
  | midway, .disarm :: rest => Orderly midway rest

/-- The resources that cancellers take, to force them closed, in their order. -/
def forced (token : String) : List Move → Host → List Resource
  | [], _ => []
  | m :: rest, h => m.taking token h ++ forced token rest (m.apply token h)

/-- The resource of the arming with number `i` is held before the step with number `k`: the arming
succeeded, and since then nobody disarmed, replaced or took it. -/
structure Holds (token : String) (moves : List Move) (h : Host) (i k : Nat) (r : Resource) :
    Prop where
  before : i < k
  armed : moves[i]? = some (.arm r)
  succeeded : (stateAt token moves h i).interrupted token = false
  kept : ∀ j m, i < j → j < k → moves[j]? = some m → m.Keeps token (stateAt token moves h j)

/-- Two hosts that agree on all children, on what was asked of them, and on all sockets. -/
structure Alike (h h' : Host) : Prop where
  children : h'.children = h.children
  calls : ∀ id, h'.callsOn id = h.callsOn id
  sockets : h'.sockets = h.sockets

section step
variable {token : String} {h : Host}

@[simp] theorem tokens_forceClosed (r : Resource) (h : Host) :
    (h.forceClosed r).tokens = h.tokens := by
  cases r with
  | process id =>
    obtain ⟨events, e⟩ := forceClosed_process id h
    rw [e]
    rfl
  | socket id =>
    obtain ⟨events, e⟩ := forceClosed_socket id h
    obtain ⟨sockets, shut⟩ := shutDown_eq id h
    rw [e, shut]

/-- Forcing a child closed is asking it to be killed. -/
theorem callsOn_forceClosed (r : Resource) (id : Nat) (h : Host) :
    (h.forceClosed r).callsOn id =
      List.replicate ([r].count (.process id)) .kill ++ h.callsOn id := by
  cases r with
  | socket other =>
    obtain ⟨events, e⟩ := forceClosed_socket other h
    obtain ⟨sockets, shut⟩ := shutDown_eq other h
    rw [e, shut]
    simp [callsOn, occasionsOn]
  | process other =>
    obtain ⟨events, e⟩ := forceClosed_process other h
    have recorded : (h.forceClosed (.process other)).callsOn id =
        (h.record other .kill).callsOn id := by
      rw [e]
      rfl
    rw [recorded]
    by_cases eq : other = id
    · subst eq
      simp
    · simp [eq]

theorem closeArmed_none (empty : (h.tokens token).armed = none) : h.closeArmed token = h := by
  simp [closeArmed, Token.take, empty]

theorem closeArmed_some {r : Resource} (armed : (h.tokens token).armed = some r) :
    h.closeArmed token = (h.updateToken token Token.disarm).forceClosed r := by
  simp only [closeArmed, Token.take, armed]
  rfl

/-- Every step does to the token what it is meant to do. -/
theorem tokens_apply (token : String) (m : Move) (h : Host) :
    (m.apply token h).tokens token = m.onToken (h.tokens token) := by
  cases m with
  | arm r =>
    cases e : h.interrupted token with
    | true =>
      have raised : (h.tokens token).interrupted = true := e
      simp [Move.apply, Move.onToken, Act.after_ok (arm_interrupted e), Token.arm, raised]
    | false =>
      obtain ⟨events, armed⟩ := arm_idle (r := r) e
      simp [Move.apply, Move.onToken, Act.after_ok armed, updateToken]
  | disarm =>
    simp [Move.apply, Move.onToken, DebugBridge.disarm, Act.after_ok (Act.modify_apply _ h),
      updateToken]
  | raise c => simp [Move.apply, Move.onToken, Host.raise, updateToken]
  | close c =>
    cases e : (h.tokens token).armed with
    | none => simp [Move.apply, Move.onToken, closeArmed_none e, Token.take, Token.disarm, ← e]
    | some r => simp [Move.apply, Move.onToken, closeArmed_some e, Token.take, updateToken]

/-- Only what is taken is touched. -/
theorem alike_apply {m : Move} (nothing : m.taking token h = []) :
    Alike h (m.apply token h) := by
  cases m with
  | arm r =>
    cases e : h.interrupted token with
    | true =>
      rw [Move.apply, Act.after_ok (arm_interrupted e)]
      exact ⟨rfl, fun _ => rfl, rfl⟩
    | false =>
      obtain ⟨events, armed⟩ := arm_idle (r := r) e
      rw [Move.apply, Act.after_ok armed]
      exact ⟨rfl, fun _ => rfl, rfl⟩
  | disarm => exact ⟨rfl, fun _ => rfl, rfl⟩
  | raise c => exact ⟨rfl, fun _ => rfl, rfl⟩
  | close c =>
    have empty : (h.tokens token).armed = none := by simpa [Move.taking] using nothing
    rw [Move.apply, closeArmed_none empty]
    exact ⟨rfl, fun _ => rfl, rfl⟩

/-- What was asked of a child is what was asked before and a kill each time it is taken. -/
theorem callsOn_apply (token : String) (m : Move) (id : Nat) (h : Host) :
    (m.apply token h).callsOn id =
      List.replicate ((m.taking token h).count (.process id)) .kill ++ h.callsOn id := by
  cases e : m.taking token h with
  | nil => simp [(alike_apply e).calls id]
  | cons r rest =>
    obtain ⟨c, rfl⟩ : ∃ c, m = .close c := by cases m <;> simp [Move.taking] at e ⊢
    have armed : (h.tokens token).armed = some r ∧ rest = [] := by
      cases held : (h.tokens token).armed <;> simp_all [Move.taking]
    obtain ⟨armed, rfl⟩ := armed
    rw [Move.apply, closeArmed_some armed]
    exact callsOn_forceClosed r id _

end step

section run
variable {token : String} {moves : List Move} {h : Host}

/-- The next state is the one that the next step leads to. -/
theorem stateAt_succ {k : Nat} {m : Move} (next : moves[k]? = some m) :
    stateAt token moves h (k + 1) = m.apply token (stateAt token moves h k) := by
  simp [stateAt, played, List.take_add_one, next]

/-- Without a next step the state stays. -/
theorem stateAt_succ_none {k : Nat} (last : moves[k]? = none) :
    stateAt token moves h (k + 1) = stateAt token moves h k := by
  simp [stateAt, List.take_add_one, last]

/-- What every step preserves is preserved from each state to all later ones. -/
theorem stateAt_invariant {P : Host → Prop} (step : ∀ m h, P h → P (Move.apply token m h))
    {k n : Nat} (le : k ≤ n) (holds : P (stateAt token moves h k)) :
    P (stateAt token moves h n) := by
  induction le with
  | refl => exact holds
  | @step n _ ih =>
    cases e : moves[n]? with
    | none => exact stateAt_succ_none e ▸ ih
    | some m => exact stateAt_succ e ▸ step m _ ih

/-- A flag that is up stays up. -/
theorem interrupted_apply (m : Move) (h : Host) (up : h.interrupted token = true) :
    (m.apply token h).interrupted token = true := by
  have up : (h.tokens token).interrupted = true := up
  unfold Host.interrupted
  rw [tokens_apply]
  cases m <;> simp [Move.onToken, Token.arm, Token.disarm, Token.raise, Token.take, up]

/-- With the flag up and nothing armed nothing ever changes at the token. -/
theorem spent_apply (m : Move) (h : Host) (spent : h.tokens token = { interrupted := true }) :
    (m.apply token h).tokens token = { interrupted := true } := by
  rw [tokens_apply, spent]
  cases m <;> rfl

/-- After the second half of an interrupt the flag is up and nothing is armed. -/
theorem spent_close (c : Nat) (h : Host) (up : h.interrupted token = true) :
    ((Move.close c).apply token h).tokens token = { interrupted := true } := by
  have up : (h.tokens token).interrupted = true := up
  simp [tokens_apply, Move.onToken, Token.take, Token.disarm, up]

/-- The flag is up exactly after somebody raised it. -/
theorem interrupted_stateAt (fresh : h.tokens token = {}) (k : Nat) :
    (stateAt token moves h k).interrupted token = true ↔
      ∃ j c, j < k ∧ moves[j]? = some (.raise c) := by
  induction k with
  | zero => simp [stateAt, played, Host.interrupted, fresh]
  | succ k ih =>
    have earlier : (∃ j c, j < k + 1 ∧ moves[j]? = some (.raise c)) ↔
        (∃ j c, j < k ∧ moves[j]? = some (.raise c)) ∨ ∃ c, moves[k]? = some (.raise c) := by
      constructor
      · rintro ⟨j, c, lt, e⟩
        by_cases eq : j = k
        · exact .inr ⟨c, eq ▸ e⟩
        · exact .inl ⟨j, c, by omega, e⟩
      · rintro (⟨j, c, lt, e⟩ | ⟨c, e⟩)
        · exact ⟨j, c, by omega, e⟩
        · exact ⟨k, c, by omega, e⟩
    rw [earlier, ← ih]
    cases e : moves[k]? with
    | none => simp [stateAt_succ_none e]
    | some m =>
      rw [stateAt_succ e]
      unfold Host.interrupted
      rw [tokens_apply]
      cases m <;> simp [Move.onToken, Token.disarm, Token.raise, Token.take, Token.arm]
      split <;> simp_all

/-- Whoever is between the two halves has raised the flag. -/
def Warned (token : String) (midway : Nat → Bool) (h : Host) : Prop :=
  ∀ c, midway c = true → h.interrupted token = true

/-- A step of an orderly run leaves an orderly run. -/
theorem orderly_apply {midway : Nat → Bool} {m : Move} {rest : List Move}
    (orderly : Orderly midway (m :: rest)) (warned : Warned token midway h) :
    ∃ midway', Orderly midway' rest ∧ Warned token midway' (m.apply token h) := by
  have still : Warned token midway (m.apply token h) := fun c between =>
    interrupted_apply m h (warned c between)
  cases m with
  | arm r => exact ⟨midway, orderly, still⟩
  | disarm => exact ⟨midway, orderly, still⟩
  | raise c =>
    have up : ((Move.raise c).apply token h).interrupted token = true := by
      simp [Move.apply, Host.raise, Host.interrupted, updateToken, Token.raise]
    exact ⟨_, orderly.2, fun _ _ => up⟩
  | close c => exact ⟨_, orderly.2, fun _ _ => still c orderly.1⟩

/-- In an orderly run the flag is up whenever somebody closes. -/
theorem interrupted_of_close {midway : Nat → Bool} (orderly : Orderly midway moves)
    (warned : Warned token midway h) {k c : Nat} (close : moves[k]? = some (.close c)) :
    (stateAt token moves h k).interrupted token = true := by
  induction moves generalizing midway h k with
  | nil => simp at close
  | cons m rest ih =>
    cases k with
    | zero =>
      obtain rfl : m = .close c := by simpa using close
      exact warned c orderly.1
    | succ k =>
      obtain ⟨midway', orderly', warned'⟩ := orderly_apply orderly warned
      exact ih orderly' warned' (by simpa using close)

/-- The arming with the last number holds if it succeeded. -/
theorem holds_newest (k : Nat) (r : Resource) : Holds token moves h k (k + 1) r ↔
    moves[k]? = some (.arm r) ∧ (stateAt token moves h k).interrupted token = false :=
  ⟨fun held => ⟨held.armed, held.succeeded⟩,
    fun ⟨armed, succeeded⟩ => ⟨by omega, armed, succeeded, fun j m _ _ => by omega⟩⟩

/-- An older arming holds on if the last step keeps it. -/
theorem holds_older {i k : Nat} (lt : i < k) (r : Resource) : Holds token moves h i (k + 1) r ↔
    Holds token moves h i k r ∧
      ∀ m, moves[k]? = some m → m.Keeps token (stateAt token moves h k) := by
  constructor
  · intro held
    exact ⟨⟨lt, held.armed, held.succeeded,
      fun j m after before next => held.kept j m after (by omega) next⟩,
      fun m next => held.kept k m lt (by omega) next⟩
  · intro ⟨held, keeps⟩
    refine ⟨by omega, held.armed, held.succeeded, fun j m after before next => ?_⟩
    by_cases eq : j = k
    · subst eq
      exact keeps m next
    · exact held.kept j m after (by omega) next

theorem holds_succ (k : Nat) (r : Resource) : (∃ i, Holds token moves h i (k + 1) r) ↔
    ((∃ i, Holds token moves h i k r) ∧
        ∀ m, moves[k]? = some m → m.Keeps token (stateAt token moves h k)) ∨
      moves[k]? = some (.arm r) ∧ (stateAt token moves h k).interrupted token = false := by
  constructor
  · intro ⟨i, held⟩
    by_cases eq : i = k
    · subst eq
      exact .inr ((holds_newest i r).mp held)
    · have lt : i < k := by
        have := held.before
        omega
      obtain ⟨older, keeps⟩ := (holds_older lt r).mp held
      exact .inl ⟨⟨i, older⟩, keeps⟩
  · rintro (⟨⟨i, older⟩, keeps⟩ | newest)
    · exact ⟨i, (holds_older older.before r).mpr ⟨older, keeps⟩⟩
    · exact ⟨k, (holds_newest k r).mpr newest⟩

/-- What is armed is what is held. -/
theorem armed_iff_holds (fresh : h.tokens token = {}) (k : Nat) (r : Resource) :
    ((stateAt token moves h k).tokens token).armed = some r ↔
      ∃ i, Holds token moves h i k r := by
  induction k with
  | zero =>
    have nothing : ∀ i, ¬ Holds token moves h i 0 r := fun i held => by
      have := held.before
      omega
    simp [stateAt, played, fresh, nothing]
  | succ k ih =>
    rw [holds_succ, ← ih]
    cases next : moves[k]? with
    | none => simp [stateAt_succ_none next]
    | some m =>
      rw [stateAt_succ next, tokens_apply]
      cases m with
      | arm r' =>
        cases idle : (stateAt token moves h k).interrupted token with
        | true =>
          have raised : ((stateAt token moves h k).tokens token).interrupted = true := idle
          simp [Move.onToken, Token.arm, Move.Keeps, raised, idle]
        | false =>
          have down : ((stateAt token moves h k).tokens token).interrupted = false := idle
          simp [Move.onToken, Token.arm, Move.Keeps, down, idle]
      | disarm => simp [Move.onToken, Token.disarm, Move.Keeps]
      | raise c => simp [Move.onToken, Token.raise, Move.Keeps]
      | close c => simp [Move.onToken, Token.take, Token.disarm, Move.Keeps]

/-- What is forced closed is what was armed when somebody closed. -/
theorem mem_forced (r : Resource) : r ∈ forced token moves h ↔
    ∃ k c, moves[k]? = some (.close c) ∧
      ((stateAt token moves h k).tokens token).armed = some r := by
  induction moves generalizing h with
  | nil => simp [forced]
  | cons m rest ih =>
    have now : r ∈ m.taking token h ↔
        ∃ c, m = .close c ∧ (h.tokens token).armed = some r := by
      cases m <;> simp [Move.taking]
    rw [forced, List.mem_append, now, ih]
    constructor
    · rintro (⟨c, rfl, armed⟩ | ⟨k, c, close, armed⟩)
      · exact ⟨0, c, rfl, armed⟩
      · exact ⟨k + 1, c, close, armed⟩
    · rintro ⟨k, c, close, armed⟩
      cases k with
      | zero => exact .inl ⟨c, by simpa using close, armed⟩
      | succ k => exact .inr ⟨k, c, by simpa using close, armed⟩

/-- From a token with the flag up and nothing armed nothing is taken. -/
theorem forced_spent (spent : h.tokens token = { interrupted := true }) :
    forced token moves h = [] := by
  induction moves generalizing h with
  | nil => rfl
  | cons m rest ih =>
    rw [forced, ih (spent_apply m h spent)]
    cases m <;> simp [Move.taking, spent]

/-- In an orderly run at most one resource is ever forced closed. -/
theorem length_forced {midway : Nat → Bool} (orderly : Orderly midway moves)
    (warned : Warned token midway h) : (forced token moves h).length ≤ 1 := by
  induction moves generalizing midway h with
  | nil => exact Nat.zero_le 1
  | cons m rest ih =>
    obtain ⟨midway', orderly', warned'⟩ := orderly_apply orderly warned
    have later := ih orderly' warned'
    cases m with
    | arm r => exact later
    | disarm => exact later
    | raise c => exact later
    | close c =>
      -- The flag was up before and nothing is armed any more, so this was the last one.
      have spent := spent_close c h (warned c orderly.1)
      rw [forced, forced_spent spent, List.append_nil]
      cases (h.tokens token).armed <;> simp [Move.taking, *]

/-- What was asked of a child in a run is to be killed, as often as it was taken. -/
theorem callsOn_played (token : String) (moves : List Move) (id : Nat) (h : Host) :
    (played token moves h).callsOn id =
      List.replicate ((forced token moves h).count (.process id)) .kill ++ h.callsOn id := by
  induction moves generalizing h with
  | nil => rfl
  | cons m rest ih =>
    change (played token rest (m.apply token h)).callsOn id = _
    rw [ih, callsOn_apply, forced, List.count_append, Nat.add_comm,
      ← List.replicate_append_replicate, List.append_assoc]

/-- Every order of the steps at a token is safe. -/
structure Safe (token : String) (moves : List Move) (h : Host) : Prop where
  /-- The flag goes up with the first interrupt, in its first half. -/
  raised : ∀ k, (stateAt token moves h k).interrupted token = true ↔
    ∃ j c, j < k ∧ moves[j]? = some (.raise c)
  sticky : ∀ k n, k ≤ n → (stateAt token moves h k).interrupted token = true →
    (stateAt token moves h n).interrupted token = true
  /-- Arming succeeds unless the flag is up. -/
  arming : ∀ k r, moves[k]? = some (.arm r) →
    DebugBridge.arm token r (stateAt token moves h k) =
      .ok (!(stateAt token moves h k).interrupted token) (stateAt token moves h (k + 1))
  /-- Once an interrupt is over nothing is armed any more. -/
  spent : ∀ k c n, moves[k]? = some (.close c) → k < n →
    (stateAt token moves h n).tokens token = { interrupted := true, armed := none }
  armed : ∀ k r, ((stateAt token moves h k).tokens token).armed = some r ↔
    ∃ i, Holds token moves h i k r
  /-- The second half of an interrupt forces closed what is held. -/
  closed : ∀ i k c r, moves[k]? = some (.close c) → Holds token moves h i k r →
    stateAt token moves h (k + 1) =
      ((stateAt token moves h k).updateToken token Token.disarm).forceClosed r
  /-- No other step touches any resource. -/
  spared : ∀ k m, moves[k]? = some m →
    (∀ i c r, m = .close c → ¬ Holds token moves h i k r) →
    Alike (stateAt token moves h k) (stateAt token moves h (k + 1))
  taken : ∀ r, r ∈ forced token moves h ↔
    ∃ i k c, moves[k]? = some (.close c) ∧ Holds token moves h i k r
  once : (forced token moves h).length ≤ 1
  /-- A child is asked to be killed as often as it is forced closed, and nothing else. -/
  killed : ∀ id, (played token moves h).callsOn id =
    List.replicate ((forced token moves h).count (.process id)) .kill ++ h.callsOn id

/-- Whatever the order in which any number of workers and cancellers take their steps at a new
token, it is safe. -/
theorem interleavings_safe (token : String) (moves : List Move) (h : Host)
    (fresh : h.tokens token = {}) (orderly : Orderly (fun _ => false) moves) :
    Safe token moves h := by
  have warned : Warned token (fun _ => false) h := fun _ between => by simp at between
  have armed (k : Nat) (r : Resource) : ((stateAt token moves h k).tokens token).armed = some r ↔
      ∃ i, Holds token moves h i k r := armed_iff_holds fresh k r
  have spent {k c : Nat} (close : moves[k]? = some (.close c)) :
      (stateAt token moves h (k + 1)).tokens token = { interrupted := true } := by
    rw [stateAt_succ close]
    exact spent_close c _ (interrupted_of_close orderly warned close)
  exact {
    raised := interrupted_stateAt fresh
    sticky := fun k n le => stateAt_invariant interrupted_apply le
    arming := fun k r next => by
      rw [stateAt_succ next, Move.apply]
      cases e : (stateAt token moves h k).interrupted token with
      | true =>
        have refused := arm_interrupted (r := r) e
        rw [refused, Act.after_ok refused]
        rfl
      | false =>
        obtain ⟨events, done⟩ := arm_idle (r := r) e
        rw [done, Act.after_ok done]
        rfl
    spent := fun k c n close lt => stateAt_invariant spent_apply lt (spent close)
    armed := armed
    closed := fun i k c r close held => by
      rw [stateAt_succ close]
      exact closeArmed_some ((armed k r).mpr ⟨i, held⟩)
    spared := fun k m next free => by
      rw [stateAt_succ next]
      refine alike_apply (List.eq_nil_iff_forall_not_mem.mpr fun r taken => ?_)
      cases m with
      | close c =>
        obtain ⟨i, held⟩ := (armed k r).mp (by simpa [Move.taking] using taken)
        exact free i c r rfl held
      | _ => simp [Move.taking] at taken
    taken := fun r => by
      rw [mem_forced]
      constructor
      · intro ⟨k, c, close, held⟩
        obtain ⟨i, held⟩ := (armed k r).mp held
        exact ⟨i, k, c, close, held⟩
      · intro ⟨i, k, c, close, held⟩
        exact ⟨k, c, close, (armed k r).mpr ⟨i, held⟩⟩
    once := length_forced orderly warned
    killed := fun id => callsOn_played token moves id h }

end run

/-- Two workers and two cancellers: the second worker arms too late, the second canceller closes
first, and only what the first worker armed is forced closed. -/
theorem interleavings_safe_race :
    Orderly (fun _ => false)
        [.arm (.process 0), .raise 0, .arm (.process 1), .raise 1, .close 1, .close 0] ∧
      Safe "work" [.arm (.process 0), .raise 0, .arm (.process 1), .raise 1, .close 1, .close 0]
        { backend := fun _ _ => {}, childCount := 2 } ∧
      forced "work" [.arm (.process 0), .raise 0, .arm (.process 1), .raise 1, .close 1, .close 0]
        { backend := fun _ _ => {}, childCount := 2 } = [.process 0] := by
  have orderly : Orderly (fun _ => false)
      [.arm (.process 0), .raise 0, .arm (.process 1), .raise 1, .close 1, .close 0] :=
    ⟨rfl, rfl, rfl, rfl, trivial⟩
  exact ⟨orderly, interleavings_safe "work" _ _ rfl orderly, by decide⟩

end DebugBridge.Cancel
