import DebugBridge.Host.Net
import DebugBridge.Proofs.Host.Interruption

/-!
# The course of a run

What an activity does to the host is a sequence of steps. While a child is looked after, nothing is
started: the steps are interrupts, bookkeeping, calls on the child, and arming and disarming. Only
through a token that is not interrupted a command is started.
-/

namespace DebugBridge
namespace Host

open Cancel Relation

/-- One step while a child is looked after through a token. -/
inductive Tending (token : String) (child : Nat) : Host → Host → Prop where
  | write {h h' : Host} : SameWorld h h' → Tending token child h h'
  | interrupt (name : String) (h : Host) : Tending token child h (h.interrupt name)
  | arm {h : Host} : h.interrupted token = false →
      Tending token child h (h.updateToken token fun t => (t.arm (.process child)).2)
  | disarm (h : Host) : Tending token child h (h.updateToken token Token.disarm)
  | call (c : Call) (h : Host) : Tending token child h (h.record child c)
  | kill (h : Host) : Tending token child h (h.killChild child).2

theorem Tending.quiet {token : String} {child : Nat} {h h' : Host}
    (step : Tending token child h h') : Quiet h h' := by
  cases step with
  | write world => exact world.quiet
  | interrupt name => exact quiet_interrupt name h
  | arm idle =>
    apply quiet_updateToken
    · intro flag
      simpa using flag
    · intro id held
      have idle : (h.tokens token).interrupted = false := idle
      simp [idle] at held
  | disarm => exact quiet_updateToken (fun flag => flag) (fun _ held => by simp at held)
  | call c => exact quiet_record child c h
  | kill => exact quiet_kill child h

/-- What holds of every step while a child is looked after holds of the whole time. -/
theorem quiet_of_tended {token : String} {child : Nat} {h h' : Host}
    (run : ReflTransGen (Tending token child) h h') : Quiet h h' := by
  induction run with
  | refl => exact Quiet.refl h
  | tail _ step ih => exact ih.trans step.quiet

def replyTo (argv : List String) (h : Host) : Reply := h.backend (h.commands.map (·.argv)) argv

theorem start_refused {program : String} {arguments : List String} {h : Host} {cause : SpawnError}
    (e : (h.replyTo (program :: arguments)).fate.spawnError? program = some cause) (mode : Mode) :
    h.start (program :: arguments) mode =
      (.error cause,
        { h with commands := ⟨program :: arguments, mode, none⟩ :: h.commands }) := by
  unfold replyTo at e
  simp only [start, e]

/-- A command that can be started runs as a new child with the number of the command. -/
theorem start_child {program : String} {arguments : List String} {h : Host}
    (e : (h.replyTo (program :: arguments)).fate.spawnError? program = none) (mode : Mode) :
    ∃ pid stdout, h.start (program :: arguments) mode =
      (.ok (h.childCount, (h.replyTo (program :: arguments)).output),
        { h with
          commands := ⟨program :: arguments, mode, some h.childCount⟩ :: h.commands
          children := assign h.children h.childCount
            { pid := pid, command? := some h.commands.length
              outcome? := (h.replyTo (program :: arguments)).fate.outcome?
              killFault? := h.killFault? }
          childCount := h.childCount + 1
          stdout := stdout }) := by
  unfold replyTo at e ⊢
  simp only [start, e, addChild]
  cases mode <;> exact ⟨_, _, rfl⟩

theorem start_eq (argv : List String) (mode : Mode) (h : Host) :
    ∃ commands children childCount stdout, (h.start argv mode).2 =
      { h with commands := commands ++ h.commands, children := children,
               childCount := childCount, stdout := stdout } ∧
      h.childCount ≤ childCount ∧ ∀ id, id ≠ h.childCount → children id = h.children id := by
  cases argv with
  | nil => exact ⟨[], _, _, _, rfl, Nat.le_refl _, fun _ _ => rfl⟩
  | cons program arguments =>
    cases e : (h.replyTo (program :: arguments)).fate.spawnError? program with
    | some cause =>
      rw [start_refused e]
      exact ⟨[_], _, _, _, rfl, Nat.le_refl _, fun _ _ => rfl⟩
    | none =>
      obtain ⟨pid, stdout, eq⟩ := start_child e mode
      rw [eq]
      exact ⟨[_], _, _, _, rfl, Nat.le_succ _, fun id ne => assign_other _ ne⟩

theorem closeWaiting_eq (h : Host) (stream : Nat) :
    ∃ sockets, h.closeWaiting stream = { h with sockets := sockets } := by
  unfold closeWaiting
  split <;> exact ⟨_, rfl⟩

theorem closeStream_eq (socket : Nat) (h : Host) :
    ∃ sockets, h.closeStream socket = { h with sockets := sockets } := by
  unfold closeStream
  split
  · split <;> exact ⟨_, rfl⟩
  · exact ⟨_, rfl⟩

theorem closeSocket_eq (id : Nat) (h : Host) :
    ∃ sockets, h.closeSocket id = { h with sockets := sockets } := by
  have streams : ∀ (waiting : List Nat) (h : Host), ∃ sockets,
      waiting.foldl closeWaiting h = { h with sockets := sockets } := by
    intro waiting
    induction waiting with
    | nil => exact fun h => ⟨h.sockets, rfl⟩
    | cons stream rest ih =>
      intro h
      obtain ⟨sockets, e⟩ := closeWaiting_eq h stream
      obtain ⟨sockets', e'⟩ := ih (h.closeWaiting stream)
      exact ⟨sockets', by rw [List.foldl_cons, e', e]⟩
  unfold closeSocket
  split
  · obtain ⟨sockets, e⟩ := streams _ (h.updateSocket id fun _ => .unconnected)
    exact ⟨sockets, e⟩
  · exact closeStream_eq id h
  · exact ⟨_, rfl⟩

theorem bindTo_eq (id port : Nat) (h : Host) :
    ∃ sockets, (h.bindTo id port).2 = { h with sockets := sockets } := by
  unfold bindTo
  split <;> exact ⟨_, rfl⟩

theorem readFrom_eq (socket max : Nat) (h : Host) :
    ∃ sockets, (h.readFrom socket max).2 = { h with sockets := sockets } := by
  unfold readFrom
  split <;> exact ⟨_, rfl⟩

theorem deliver_eq (socket : Nat) (bytes : List UInt8) (h : Host) :
    ∃ sockets, h.deliver socket bytes = { h with sockets := sockets } := by
  unfold deliver
  split <;> exact ⟨_, rfl⟩

theorem meet_eq (socket : Nat) (p : Peer) (h : Host) :
    ∃ sockets socketCount, h.meet socket p =
      { h with sockets := sockets, socketCount := socketCount } := by
  let far := h.socketCount
  let linked := (h.addSocket (.stream { peer := socket })).2.link socket far p.address?
  obtain ⟨told, said⟩ := deliver_eq far p.said linked
  obtain ⟨left, closed⟩ := closeStream_eq far (linked.deliver far p.said)
  change ∃ sockets socketCount, (if p.stays then linked.deliver far p.said
    else (linked.deliver far p.said).closeStream far) = _
  split
  · exact ⟨told, _, said⟩
  · exact ⟨left, _, by rw [closed, said]; rfl⟩

theorem takeWaiting_eq (listener : Nat) (h : Host) :
    ∃ sockets socketCount visitors, (h.takeWaiting listener).2 =
      { h with sockets := sockets, socketCount := socketCount, visitors := visitors } := by
  unfold takeWaiting
  split
  · split
    · exact ⟨_, _, _, rfl⟩
    · unfold receive
      split
      · split
        · exact ⟨_, _, _, rfl⟩
        · obtain ⟨sockets, socketCount, e⟩ := meet_eq _ _ _
          exact ⟨_, _, _, e⟩
      · exact ⟨_, _, _, rfl⟩
  · exact ⟨_, _, _, rfl⟩

inductive Commanding (token : String) : Host → Host → Prop where
  | tend {child : Nat} {h h' : Host} : Tending token child h h' → Commanding token h h'
  | start (argv : List String) (mode : Mode) {h : Host} : h.interrupted token = false →
      Commanding token h (h.start argv mode).2

inductive Step (token : String) : Host → Host → Prop where
  | command {h h' : Host} : Commanding token h h' → Step token h h'
  | openSocket (h : Host) : Step token h (h.addSocket .unconnected).2
  | armSocket (id : Nat) {h : Host} : h.interrupted token = false →
      Step token h (h.updateToken token fun t => (t.arm (.socket id)).2)
  | bind (id port : Nat) (h : Host) : Step token h (h.bindTo id port).2
  | closeSocket (id : Nat) (h : Host) : Step token h (h.closeSocket id)

theorem Commanding.undisturbed {token : String} {h h' : Host} (step : Commanding token h h') :
    Undisturbed h h' := by
  cases step with
  | tend t => exact t.quiet.toUndisturbed
  | start argv mode idle =>
    obtain ⟨commands, children, childCount, stdout, e, -, -⟩ := start_eq argv mode h
    rw [e]
    exact ⟨rfl, rfl, .refl _, rfl, rfl, fun _ e => e, fun _ => rfl, fun _ _ e => e,
      fun _ _ e => e, fun _ _ _ e => e, fun _ e => e⟩

theorem undisturbed_of_commanding {token : String} {h h' : Host}
    (run : ReflTransGen (Commanding token) h h') : Undisturbed h h' := by
  induction run with
  | refl => exact (Quiet.refl h).toUndisturbed
  | tail _ step ih => exact ih.trans step.undisturbed

/-- No flag goes down, no command is forgotten, through an interrupted token none is issued, a
decided outcome stays, and the clock is the same one. -/
structure Onward (token : String) (h h' : Host) : Prop where
  clockEnd? : h'.clockEnd? = h.clockEnd?
  flags : ∀ name, h.interrupted name = true → h'.interrupted name = true
  commands : h.commands <:+ h'.commands
  silent : h.interrupted token = true → h'.commands = h.commands
  childCount : h.childCount ≤ h'.childCount
  outcomes : ∀ id o, id < h.childCount → (h.children id).outcome? = some o →
    (h'.children id).outcome? = some o

theorem Onward.trans {token : String} {h₁ h₂ h₃ : Host} (a : Onward token h₁ h₂)
    (b : Onward token h₂ h₃) : Onward token h₁ h₃ where
  clockEnd? := b.clockEnd?.trans a.clockEnd?
  flags name e := b.flags name (a.flags name e)
  commands := a.commands.trans b.commands
  silent e := (b.silent (a.flags token e)).trans (a.silent e)
  childCount := Nat.le_trans a.childCount b.childCount
  outcomes id o lt e := b.outcomes id o (Nat.lt_of_lt_of_le lt a.childCount) (a.outcomes id o lt e)

/-- What leaves the tokens, the commands, the children and the clock alone goes onward. -/
theorem onward_of_same (token : String) {h h' : Host} (tokens : h'.tokens = h.tokens)
    (commands : h'.commands = h.commands) (children : h'.children = h.children)
    (childCount : h'.childCount = h.childCount) (clockEnd? : h'.clockEnd? = h.clockEnd?) :
    Onward token h h' where
  clockEnd? := clockEnd?
  flags name raised := by simpa only [interrupted, tokens] using raised
  commands := commands ▸ List.suffix_refl _
  silent _ := commands
  childCount := Nat.le_of_eq childCount.symm
  outcomes id o _ outcome := by simpa only [children] using outcome

theorem Quiet.onward {h h' : Host} (quiet : Quiet h h') (token : String) : Onward token h h' where
  clockEnd? := quiet.clockEnd?
  flags := quiet.flags
  commands := quiet.commands ▸ List.suffix_refl _
  silent _ := quiet.commands
  childCount := Nat.le_of_eq quiet.childCount.symm
  outcomes id o _ e := quiet.outcomes id o e

theorem Commanding.onward {token : String} {h h' : Host} (step : Commanding token h h') :
    Onward token h h' := by
  cases step with
  | tend t => exact t.quiet.onward token
  | start argv mode idle =>
    obtain ⟨commands, children, childCount, stdout, e, more, old⟩ := start_eq argv mode h
    rw [e]
    refine ⟨rfl, fun _ e => e, List.suffix_append _ _, fun raised => by simp [idle] at raised, more,
      fun id o lt outcome => ?_⟩
    rw [← outcome]
    exact congrArg Child.outcome? (old id (Nat.ne_of_lt lt))

theorem Step.onward {token : String} {h h' : Host} (step : Step token h h') :
    Onward token h h' := by
  cases step with
  | command c => exact c.onward
  | openSocket => exact onward_of_same token rfl rfl rfl rfl rfl
  | armSocket id idle =>
    exact ⟨rfl, fun _ => (interrupted_updateToken (Token.interrupted_arm _ _)).trans,
      List.suffix_refl _, fun _ => rfl, Nat.le_refl _, fun _ _ _ e => e⟩
  | bind id port =>
    obtain ⟨sockets, e⟩ := bindTo_eq id port h
    rw [e]
    exact onward_of_same token rfl rfl rfl rfl rfl
  | closeSocket id =>
    obtain ⟨sockets, e⟩ := closeSocket_eq id h
    rw [e]
    exact onward_of_same token rfl rfl rfl rfl rfl

/-- What holds of every step of an operation holds of all of it. -/
theorem onward_of_steps {token : String} {h h' : Host} (run : ReflTransGen (Step token) h h') :
    Onward token h h' := by
  induction run with
  | refl => exact (Quiet.refl h).onward token
  | tail _ step ih => exact ih.trans step.onward

/-- A relation that allows for bookkeeping and interrupts, and so for whatever happens by itself. -/
structure Tolerant (R : Host → Host → Prop) : Prop where
  write : ∀ h h', SameWorld h h' → R h h'
  interrupt : ∀ name h, R h (h.interrupt name)

theorem tolerant_tending (token : String) (child : Nat) : Tolerant (Tending token child) :=
  ⟨fun _ _ => .write, .interrupt⟩

theorem tolerant_commanding (token : String) : Tolerant (Commanding token) where
  write h h' world := .tend (show Tending token 0 h h' from .write world)
  interrupt name h := .tend (show Tending token 0 h _ from .interrupt name h)

theorem tolerant_step (token : String) : Tolerant (Step token) where
  write h h' world := .command ((tolerant_commanding token).write h h' world)
  interrupt name h := .command ((tolerant_commanding token).interrupt name h)

/-- A tolerant relation that also allows for reading what a child writes. -/
structure Receptive (child : Nat) (R : Host → Host → Prop) : Prop extends Tolerant R where
  read : ∀ h, R h (h.record child .read)

/-- A relation that allows for everything that is asked of a child before its release. -/
structure Attentive (child : Nat) (R : Host → Host → Prop) : Prop extends Receptive child R where
  wait : ∀ h, R h (h.record child .wait)
  kill : ∀ h, R h (h.killChild child).2

theorem attentive_tending (token : String) (child : Nat) : Attentive child (Tending token child) :=
  ⟨⟨tolerant_tending token child, .call .read⟩, .call .wait, .kill⟩

/-- No strike is bound to this kind of moment. -/
def Unstruck (point : Point) (h : Host) : Prop := ∀ s ∈ h.strikes, s.point ≠ point

/-- Where no strike is bound to a kind of moment, none happens then. -/
theorem strike_unstruck {point : Point} {h : Host} (unstruck : h.Unstruck point) (command : Nat) :
    h.strike command point = h := by
  have now : h.strikes.filter (fun s => s.command = command && s.point = point) = [] :=
    List.filter_eq_nil_iff.mpr fun s mem => by simp [unstruck s mem]
  have rest : h.strikes.filter (fun s => !(s.command = command && s.point = point)) = h.strikes :=
    List.filter_eq_self.mpr fun s mem => by simp [unstruck s mem]
  simp only [strike, now, rest, List.foldl_nil]

/-- Where no strike is left, none happens. -/
theorem strike_nil {h : Host} (calm : h.strikes = []) (command : Nat) (point : Point) :
    h.strike command point = h :=
  strike_unstruck (fun s mem => by simp [calm] at mem) command

/-- To let time pass is to take the steps of the alarms that go off. -/
theorem elapse_within_of_rings {R : Host → Host → Prop}
    (rings : ∀ a h, ReflTransGen R h (Host.ring a h))
    (passes : ∀ (h : Host) clock, R h { h with clock := clock }) (duration : Nat) (h : Host) :
    ReflTransGen R h (h.elapse duration) := by
  have bounded : ∀ deadline fuel h, ReflTransGen R h (Host.elapseWith deadline fuel h) := by
    intro deadline fuel
    induction fuel with
    | zero => exact fun h => .single (passes h _)
    | succ fuel ih =>
      intro h
      unfold elapseWith
      split
      · exact (rings _ h).trans (ih _)
      · exact .single (passes h _)
  exact bounded _ _ h

/-- What wakes a blocked activity is one interrupt by somebody else, once it is no longer to come.
-/
theorem wake_eq {deadline? : Option Nat} {h h' : Host} (e : h.wake? deadline? = some (.ok h')) :
    ∃ name alarms clock cues requests,
      h' = ({ h with alarms := alarms, clock := clock, cues := cues, requests := requests } :
        Host).interruptFromOutside name := by
  unfold wake? at e
  split at e
  · obtain rfl := Except.ok.inj (Option.some.inj e)
    exact ⟨_, _, _, _, _, rfl⟩
  · split at e
    · split at e
      · have requested := Option.some.inj e
        unfold request at requested
        dsimp only at requested
        split at requested
        · exact ⟨_, _, _, _, _, (Except.ok.inj requested).symm⟩
        · exact ⟨_, _, _, _, _, (Except.ok.inj requested).symm⟩
        · cases requested
      · cases e
    · cases e

/-- Only a request to stop that comes after two others ends the program. -/
theorem wake_exit {deadline? : Option Nat} {h : Host} {halt : Halt}
    (woken : h.wake? deadline? = some (.error halt)) : halt = .exit 130 ∧ 2 ≤ h.requests := by
  unfold wake? at woken
  split at woken
  · cases woken
  · split at woken
    · split at woken
      · have requested := Option.some.inj woken
        unfold request escalate at requested
        by_cases first : h.requests + 1 ≤ 1
        · simp only [first, if_true] at requested
          cases requested
        · by_cases second : h.requests + 1 = 2
          · simp only [second, Nat.reduceLeDiff, if_false, if_true] at requested
            cases requested
          · simp only [first, second, if_false] at requested
            exact ⟨(Except.error.inj requested).symm, by omega⟩
      · cases woken
    · cases woken

/-- How a wait for a condition runs: until the condition holds, it is woken again and again. -/
inductive Blocked (ready : Host → Bool) : Host → EStateM.Result Halt Host Unit → Prop where
  | ready {h : Host} : ready h = true → Blocked ready h (.ok () h)
  /-- Nothing is left that could wake it. -/
  | forever {h : Host} : ready h = false → Blocked ready h (.error .forever h)
  | exit {h : Host} {halt : Halt} : ready h = false → h.wake? none = some (.error halt) →
      Blocked ready h (.error halt h)
  | woken {h h₁ : Host} {result : EStateM.Result Halt Host Unit} : ready h = false →
      h.wake? none = some (.ok h₁) → Blocked ready h₁ result → Blocked ready h result

/-- By induction on what is left to happen. -/
theorem blocked_blockWith (ready : Host → Bool) (fuel : Nat) (h : Host) :
    Blocked ready h (h.blockWith ready fuel) := by
  induction fuel generalizing h with
  | zero =>
    cases e : ready h <;> simp only [blockWith, e]
    · exact .forever e
    · exact .ready e
  | succ fuel ih =>
    cases e : ready h with
    | true =>
      simp only [blockWith, e, if_true]
      exact .ready e
    | false =>
      cases w : h.wake? none with
      | none => simpa only [blockWith, e, w] using .forever e
      | some next =>
        cases next with
        | error halt => simpa only [blockWith, e, w] using .exit e w
        | ok h₁ =>
          simpa only [blockWith, e, w, Bool.false_eq_true, if_false] using .woken e w (ih h₁)

theorem blocked_blockUntil (ready : Host → Bool) (h : Host) :
    Blocked ready h (blockUntil ready h) :=
  blocked_blockWith ready h.pending h

/-- How a sleep runs: until its time is over, it is woken again and again, and an interrupt of its
token ends it. -/
inductive Dozed (token : String) (deadline : Nat) :
    Host → EStateM.Result Halt Host Bool → Prop where
  | interrupted {h : Host} : h.interrupted token = true → Dozed token deadline h (.ok false h)
  | elapsed {h : Host} : h.interrupted token = false →
      Dozed token deadline h (.ok true { h with clock := max h.clock deadline })
  | exit {h : Host} {halt : Halt} : h.wake? (some deadline) = some (.error halt) →
      Dozed token deadline h (.error halt h)
  | woken {h h₁ : Host} {result : EStateM.Result Halt Host Bool} :
      h.wake? (some deadline) = some (.ok h₁) → Dozed token deadline h₁ result →
      Dozed token deadline h result

theorem dozed_dozeWith (token : String) (deadline fuel : Nat) (h : Host) :
    Dozed token deadline h (h.dozeWith token deadline fuel) := by
  induction fuel generalizing h with
  | zero =>
    cases e : h.interrupted token <;> simp only [dozeWith, e]
    · exact .elapsed e
    · exact .interrupted e
  | succ fuel ih =>
    cases e : h.interrupted token with
    | true =>
      simp only [dozeWith, e, if_true]
      exact .interrupted e
    | false =>
      cases w : h.wake? (some deadline) with
      | none => simpa only [dozeWith, e, w] using .elapsed e
      | some next =>
        cases next with
        | error halt => simpa only [dozeWith, e, w] using .exit w
        | ok h₁ =>
          simpa only [dozeWith, e, w, Bool.false_eq_true, if_false] using .woken w (ih h₁)

/-- A sleep whose end the clock can show runs as it should. -/
theorem dozed_sleep {duration : Nat} {h : Host} (shown : h.shows (h.clock + duration) = true)
    (token : String) :
    Dozed token (h.clock + duration) (h.undertake (.nap duration)) (sleep token duration h) := by
  unfold sleep
  simp only [shown, if_true]
  exact dozed_dozeWith token (h.clock + duration) h.pending (h.undertake (.nap duration))

/-- Whoever was interrupted before does not sleep. -/
theorem sleep_interrupted {token : String} {duration : Nat} {h : Host}
    (raised : h.interrupted token = true) (shown : h.shows (h.clock + duration) = true) :
    sleep token duration h = .ok false (h.undertake (.nap duration)) := by
  have raised : (h.undertake (.nap duration)).interrupted token = true := raised
  unfold sleep
  simp only [shown, if_true]
  cases h.pending <;> simp only [dozeWith, raised, if_true]

theorem sleep_panicked {duration : Nat} {h : Host} (hidden : h.shows (h.clock + duration) = false)
    (token : String) :
    sleep token duration h = .error .panicked (h.undertake (.nap duration)) := by
  unfold sleep
  simp only [hidden, Bool.false_eq_true, if_false]

/-- The strikes of a moment are crossed off and then take effect one after the other. -/
theorem strike_of_suffers {R : Host → Host → Prop}
    (crosses : ∀ (h : Host) strikes, strikes.Sublist h.strikes → R h { h with strikes := strikes })
    (suffers : ∀ (s : Strike) (h : Host), R h (h.suffer s)) (command : Nat) (point : Point)
    (h : Host) : ReflTransGen R h (h.strike command point) := by
  have all (strikes : List Strike) (h : Host) :
      ReflTransGen R h (strikes.foldl (fun h s => h.suffer s) h) := by
    induction strikes generalizing h with
    | nil => exact .refl
    | cons s rest ih => exact .head (suffers s h) (ih _)
  exact .head (crosses h _ List.filter_sublist) (all _ _)

section happenings
variable {R : Host → Host → Prop} (tolerant : Tolerant R)
include tolerant

/-- Strikes are interrupts and bookkeeping. -/
theorem strike_within (command : Nat) (point : Point) (h : Host) :
    ReflTransGen R h (h.strike command point) := by
  refine strike_of_suffers (fun _ _ fewer => tolerant.write _ _ ?_) (fun s h => ?_) command point h
  · constructor <;> first | rfl | exact fewer
  · unfold suffer
    split
    · exact tolerant.write _ _ (by constructor <;> rfl)
    · exact tolerant.interrupt s.token h

theorem interruptFromOutside_within (name : String) (h : Host) :
    ReflTransGen R h (h.interruptFromOutside name) :=
  .tail (.single (tolerant.interrupt name h)) (tolerant.write _ _ (by constructor <;> rfl))

theorem ring_within (a : Alarm) (h : Host) : ReflTransGen R h (h.ring a) :=
  .head (tolerant.write _ _ (by constructor <;> rfl))
    (interruptFromOutside_within tolerant a.token _)

/-- So is the passing of time. -/
theorem elapse_within (duration : Nat) (h : Host) : ReflTransGen R h (h.elapse duration) :=
  elapse_within_of_rings (ring_within tolerant)
    (fun _ _ => tolerant.write _ _ (by constructor <;> rfl)) duration h

/-- What wakes a blocked activity is made of interrupts and bookkeeping. -/
theorem wake_within {deadline? : Option Nat} {h h' : Host}
    (e : h.wake? deadline? = some (.ok h')) : ReflTransGen R h h' := by
  obtain ⟨name, alarms, clock, cues, requests, rfl⟩ := wake_eq e
  exact .head (tolerant.write _ _ (by constructor <;> rfl))
    (interruptFromOutside_within tolerant _ _)

end happenings
end Host
end DebugBridge
