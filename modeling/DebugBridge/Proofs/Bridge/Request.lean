import DebugBridge.Proofs.Bridge.Lifecycle
import DebugBridge.Proofs.Bridge.Tended

/-!
# Bridge operations

An operation is an action, or a query together with what its answer means. What it returns is a
function of what its command writes and of how the child ends, except that a command that did not
succeed counts as cancelled once the token is interrupted.
-/

namespace DebugBridge

open Host Relation

def Query.Value : Query → Type
  | .connect _ => Unit
  | .property .. => String
  | .serialNumber => String
  | .devices => List Device
  | .route _ => Option String

def Query.read : (q : Query) → String → Except BridgeError q.Value
  | .connect address, text =>
    if Bridge.connectedAnswer.toList.isPrefixOf text.toList then .ok ()
    else .error (.connectRejected address (Text.firstLine text))
  | .property .., text => .ok (Text.firstToken text)
  | .serialNumber, text => .ok (Text.firstToken text)
  | .devices, text => .ok (Listing.devices text)
  | .route _, text => .ok (Route.address? text)

theorem read_connect (address text : String) : (Query.connect address).read text =
    if Bridge.connectedAnswer.toList.isPrefixOf text.toList then .ok ()
    else .error (.connectRejected address (Text.firstLine text)) := rfl

def Bridge.query (b : Bridge) (token : String) : (q : Query) → Act (Except BridgeError q.Value)
  | .connect address => b.connect token address
  | .property serial name => b.property token serial name
  | .serialNumber => b.serialNumber token
  | .devices => b.devices token
  | .route serial => b.address token serial

inductive Request where
  | act (a : Action)
  | ask (q : Query)
  deriving DecidableEq, Repr

namespace Request

def Value : Request → Type
  | .act _ => Unit
  | .ask q => q.Value

def name : Request → String
  | .act a => a.name
  | .ask q => q.name

def arguments : Request → List String
  | .act a => a.arguments
  | .ask q => q.arguments

def mode : Request → Mode
  | .act a => a.mode
  | .ask _ => .capture

def run (b : Bridge) (token : String) : (r : Request) → Act (Except BridgeError r.Value)
  | .act a => b.act token a
  | .ask q => b.query token q

end Request

/-- The text of an answer, once the child has come to an outcome. -/
def answered (q : Query) (o : Outcome) : Except Fault Capture → Except BridgeError String
  | .ok (.complete bytes) => (verdict q.name o).map fun _ => Utf8.decode bytes
  | .ok (.overflow _) => .error (.captureOverflow q.name q.limit)
  | .error cause => .error (.io q.name cause)

/-- What an operation returns when it is not cancelled: the command wrote this output and its child
came to this outcome. -/
def Request.result : (r : Request) → Output → Outcome → Except BridgeError r.Value
  | .act a, _, o => verdict a.name o
  | .ask q, output, o => answered q o (captured q output) >>= q.read

/-- Whether the operation waits for the end of an output that has none. -/
def Request.Stuck : Request → Output → Prop
  | .act _, _ => False
  | .ask q, output => Unending q output

/-- Whether the operation kills the child because nobody reads on. -/
def Request.Kills : Request → Output → Prop
  | .act _, _ => False
  | .ask q, output => isUnfinished (captured q output) = true

section meaning
variable (b : Bridge) (token : String)

theorem answer_ok (q : Query) (o : Outcome) (capture : Except Fault Capture) (h : Host) :
    ∃ events,
      Bridge.answer q o capture h = .ok (answered q o capture) { h with events := events } := by
  unfold Bridge.answer answered
  split
  · obtain ⟨events, e⟩ := judge_ok q.name o h
    exact ⟨events, by rw [Act.bind_apply, e]; rfl⟩
  · exact ⟨_, rfl⟩
  · exact ⟨h.events, rfl⟩

/-- Every query asks one command and reads the text of the answer. -/
theorem query_eq (q : Query) : ∃ f, b.query token q = b.ask token q >>= f ∧
    ∀ x h, ∃ events, f x h = .ok (x >>= q.read) { h with events := events } := by
  cases q with
  | connect address =>
    refine ⟨_, rfl, fun x h => ?_⟩
    cases x with
    | error e => exact ⟨h.events, rfl⟩
    | ok text =>
      change ∃ events, _ = EStateM.Result.ok ((Query.connect address).read text) _
      rw [read_connect]
      dsimp only
      split
      · exact ⟨_, rfl⟩
      · exact ⟨h.events, rfl⟩
  | property serial name =>
    refine ⟨_, rfl, fun x h => ⟨h.events, ?_⟩⟩
    cases x <;> rfl
  | serialNumber =>
    refine ⟨_, rfl, fun x h => ⟨h.events, ?_⟩⟩
    cases x <;> rfl
  | devices =>
    refine ⟨_, rfl, fun x h => ?_⟩
    cases x with
    | error e => exact ⟨h.events, rfl⟩
    | ok text => exact ⟨_, rfl⟩
  | route serial =>
    refine ⟨_, rfl, fun x h => ?_⟩
    cases x with
    | error e => exact ⟨h.events, rfl⟩
    | ok text => exact ⟨_, rfl⟩

end meaning

/-- A command was started on the host as a new child, and the strikes of that moment are over. -/
structure Launched (token : String) (argv : List String) (h h' : Host) : Prop where
  flag : h'.interrupted token = (h.interrupted token || h.struckAt token h.commands.length .spawn)
  born : ∃ h₀, (h₀.children h.childCount).outcome? = (h.replyTo argv).fate.outcome? ∧
    OnlyKilled h.childCount h₀ h'
  newborn : h.Grounded → Newborn h.childCount h'

section issue
variable {α : Type} {b : Bridge} {token : String} {arguments : List String} {mode : Mode}
  {proceed : Except SpawnError (Nat × Output) → Act (Except BridgeError α)} {h : Host}

theorem spawn_failed (mode : Mode) {cause : SpawnError}
    (failed : (h.replyTo (b.argv arguments)).fate.spawnError? b.executable = some cause) :
    ∃ h', spawn (b.argv arguments) mode h = .ok (.error cause) h' := by
  have refused : h.start (b.argv arguments) mode = _ := start_refused failed mode
  refine ⟨(h.start (b.argv arguments) mode).2.strike h.commands.length .spawn, ?_⟩
  have run : spawn (b.argv arguments) mode h = .ok (h.start (b.argv arguments) mode).1
    ((h.start (b.argv arguments) mode).2.strike h.commands.length .spawn) := rfl
  rw [run, refused]

/-- Starting a command gives its child and its output. -/
theorem spawn_launched (token : String) (mode : Mode)
    (started : (h.replyTo (b.argv arguments)).fate.spawnError? b.executable = none) :
    ∃ h', spawn (b.argv arguments) mode h =
        .ok (.ok (h.childCount, (h.replyTo (b.argv arguments)).output)) h' ∧
      Launched token (b.argv arguments) h h' := by
  obtain ⟨pid, stdout, e⟩ := start_child started mode
  change h.start (b.argv arguments) mode = _ at e
  have run : spawn (b.argv arguments) mode h = .ok (h.start (b.argv arguments) mode).1
    ((h.start (b.argv arguments) mode).2.strike h.commands.length .spawn) := rfl
  have handed := spawned b arguments mode h
  have struck := strike_within (tolerant_onlyKilled h.childCount) h.commands.length .spawn
    (h.start (b.argv arguments) mode).2
  have flag := interrupted_strike token h.commands.length .spawn (h.start (b.argv arguments) mode).2
  rw [e] at run struck flag
  rw [run] at handed
  refine ⟨_, run, flag, ⟨_, ?_, onlyKilled_of_run struck⟩, ?_⟩
  · exact congrArg Child.outcome? (assign_same _ _ _)
  cases handed with
  | started _ _ _ _ newborn => exact newborn

theorem issue_failed (arguments : List String) (mode : Mode) {cause : SpawnError}
    (idle : h.interrupted token = false)
    (failed : (h.replyTo (b.argv arguments)).fate.spawnError? b.executable = some cause) :
    ∃ h', b.issue token arguments mode proceed h = proceed (.error cause) h' := by
  obtain ⟨text, issued⟩ := issue_idle b token arguments mode proceed
  obtain ⟨h', run⟩ := spawn_failed mode (h := h.note .debug text) failed
  exact ⟨h', by rw [issued h idle, Act.bind_apply, run]⟩

theorem issue_launched (arguments : List String) (mode : Mode)
    (idle : h.interrupted token = false)
    (started : (h.replyTo (b.argv arguments)).fate.spawnError? b.executable = none) :
    ∃ h', b.issue token arguments mode proceed h =
        proceed (.ok (h.childCount, (h.replyTo (b.argv arguments)).output)) h' ∧
      Launched token (b.argv arguments) h h' := by
  obtain ⟨text, issued⟩ := issue_idle b token arguments mode proceed
  obtain ⟨h', run, launched⟩ := spawn_launched token mode (h := h.note .debug text) started
  exact ⟨h', by rw [issued h idle, Act.bind_apply, run]; rfl, launched.flag, launched.born,
    launched.newborn⟩

end issue

section request
variable {b : Bridge} {token : String} (r : Request) {h : Host}

/-- Through an interrupted token nothing is done at all. -/
theorem run_refused (raised : h.interrupted token = true) :
    r.run b token h = .ok (.error .interrupted) h := by
  cases r with
  | act a => exact issue_refused raised _
  | ask q =>
    have asked : b.ask token q h = .ok (.error .interrupted) h := issue_refused raised _
    change b.query token q h = _
    cases q <;> simp only [Bridge.query, Bridge.connect, Bridge.property, Bridge.serialNumber,
      Bridge.devices, Bridge.address, Act.bind_apply, asked] <;> rfl

/-- A command that cannot be started is reported as such. -/
theorem run_failed {cause : SpawnError} (idle : h.interrupted token = false)
    (failed : (h.replyTo (b.argv r.arguments)).fate.spawnError? b.executable = some cause) :
    ∃ h', r.run b token h = .ok (.error (.spawn r.name cause)) h' := by
  cases r with
  | act a =>
    obtain ⟨h₁, issued⟩ := issue_failed a.arguments a.mode idle failed
    obtain ⟨events, reported⟩ := reportUnstarted_ok a.name (b.argv a.arguments) cause h₁
    have ran : b.act token a h =
        .ok (.error (.spawn a.name cause)) { h₁ with events := events } := by
      refine issued.trans ?_
      simp only [Act.bind_apply, reported, Act.pure_apply]
    exact ⟨_, ran⟩
  | ask q =>
    obtain ⟨f, e, reads⟩ := query_eq b token q
    obtain ⟨h₁, issued⟩ := issue_failed q.arguments .capture idle failed
    obtain ⟨events, reported⟩ := reportUnstarted_ok q.name (b.argv q.arguments) cause h₁
    obtain ⟨events', read⟩ := reads (.error (.spawn q.name cause)) { h₁ with events := events }
    have asked : b.ask token q h = .ok (.error (.spawn q.name cause))
        { h₁ with events := events } := by
      refine issued.trans ?_
      simp only [Act.bind_apply, reported, Act.pure_apply]
    change ∃ h', b.query token q h = _
    rw [e, Act.bind_apply, asked]
    exact ⟨_, read⟩

/-- Once its command was started, an operation looks after the child. -/
theorem run_launched (idle : h.interrupted token = false)
    (started : (h.replyTo (b.argv r.arguments)).fate.spawnError? b.executable = none) :
    ∃ h₁, Launched token (b.argv r.arguments) h h₁ ∧
      Tended token h.childCount (r.Stuck (h.replyTo (b.argv r.arguments)).output)
        (r.Kills (h.replyTo (b.argv r.arguments)).output)
        (r.result (h.replyTo (b.argv r.arguments)).output) h₁ (r.run b token h) := by
  cases r with
  | act a =>
    obtain ⟨h₁, issued, launched⟩ := issue_launched a.arguments a.mode idle started
    refine ⟨h₁, launched, ?_⟩
    change Tended _ _ _ _ _ _ (b.act token a h)
    unfold Bridge.act
    rw [issued]
    refine supervise_ends token h.childCount (b := ()) (fun R _ => Act.within_pure ())
      (yields_pure ()) ?_ (fun o h => judge_ok a.name o h) h₁
    intro h x h' run
    cases run
    exact killedIf_never id id fun _ _ => Iff.rfl
  | ask q =>
    obtain ⟨f, e, reads⟩ := query_eq b token q
    obtain ⟨h₁, issued, launched⟩ := issue_launched q.arguments .capture idle started
    refine ⟨h₁, launched, ?_⟩
    change Tended _ _ _ _ _ _ (b.query token q h)
    have asked := supervise_ends token h.childCount
      (fun R attentive => within_readAll attentive q _)
      (yields_readAll q h.childCount (h.replyTo (b.argv q.arguments)).output)
      (fun _ _ _ => killedIf_readAll q h.childCount _)
      (fun o h => answer_ok q o (captured q _) h) h₁
    rw [e, Act.bind_apply, show b.ask token q h = _ from issued, ← Act.bind_apply]
    exact asked.read reads

/-- A command that ends by itself is waited for, unless its child is given up at once. -/
theorem run_ends {o : Outcome} (idle : h.interrupted token = false)
    (outcome : (h.replyTo (b.argv r.arguments)).fate.outcome? = some o)
    (unstruck : h.struckAt token h.commands.length .spawn = false)
    (ends : ¬ r.Stuck (h.replyTo (b.argv r.arguments)).output) :
    ∃ h', r.run b token h =
      .ok (if !o.isSuccess && h'.interrupted token then .error .interrupted
        else r.result (h.replyTo (b.argv r.arguments)).output o) h' := by
  have started : (h.replyTo (b.argv r.arguments)).fate.spawnError? b.executable = none := by
    cases fate : (h.replyTo (b.argv r.arguments)).fate <;>
      simp [fate, Fate.outcome?, Fate.spawnError?] at outcome ⊢
  obtain ⟨h₁, launched, tended⟩ := run_launched (b := b) r idle started
  obtain ⟨h₀, outcome₀, only₀⟩ := launched.born
  rw [outcome] at outcome₀
  have calm : h₁.interrupted token = false := by rw [launched.flag, idle, unstruck]; rfl
  generalize r.run b token h = result at tended
  cases tended with
  | abandoned raised _ _ => simp [calm] at raised
  | stuck _ stuck => exact absurd stuck ends
  | running _ _ running only =>
    have ended := (only₀.trans only).ended (by rw [Child.hasEnded, outcome₀]; rfl)
    simp [running] at ended
  | @ended o' _ h' _ _ outcome' eq _ only =>
    have same := (only₀.trans only).outcome outcome'
    rw [outcome₀] at same
    obtain rfl : o' = o := same
    exact ⟨h', congrArg (EStateM.Result.ok · h') eq⟩

/-- A child that succeeds is not disturbed by anybody, unless it is given up at once. -/
theorem run_succeeds (idle : h.interrupted token = false)
    (succeeds : (h.replyTo (b.argv r.arguments)).fate = .exits (.code 0))
    (unstruck : h.struckAt token h.commands.length .spawn = false)
    (ends : ¬ r.Stuck (h.replyTo (b.argv r.arguments)).output) :
    ∃ h', r.run b token h =
      .ok (r.result (h.replyTo (b.argv r.arguments)).output (.code 0)) h' := by
  have outcome : (h.replyTo (b.argv r.arguments)).fate.outcome? = some (.code 0) := by
    rw [succeeds]
    rfl
  exact run_ends r idle outcome unstruck ends

end request
end DebugBridge
