import DebugBridge.Proofs.Bridge.Request

/-!
# What an interrupt does to one operation

It depends on when the interrupt comes. Before the operation it keeps the command from being issued;
between the start of the child and the arming of the token it has the child given up; from then on
it kills the child, and the operation counts as cancelled exactly if the child did not succeed all
the same. What succeeded is reported as if nobody had interrupted.
-/

namespace DebugBridge

open Host

/-- The host without anything that would interrupt anybody. -/
def Host.stilled (h : Host) : Host := { h with strikes := [], alarms := [], cues := [] }

/-- What one operation on a host makes of the interrupts that come. -/
structure Heeding (b : Bridge) (token : String) (r : Request) (h : Host) : Prop where
  /-- An interrupt before the operation: it returns at once, and nothing is started. -/
  before : h.interrupted token = true → r.run b token h = .ok (.error .interrupted) h
  /-- A command that cannot be started is reported as such, whether or not the interrupt comes while
  it is tried. -/
  unstarted : ∀ cause, h.interrupted token = false →
    (h.replyTo (b.argv r.arguments)).fate.spawnError? b.executable = some cause →
    ∃ h', r.run b token h = .ok (.error (.spawn r.name cause)) h'
  /-- An interrupt right after the start of the child: the child is killed. -/
  unarmed : h.interrupted token = false →
    (h.replyTo (b.argv r.arguments)).fate.spawnError? b.executable = none →
    h.struckAt token h.commands.length .spawn = true →
    ∃ h', r.run b token h = .ok (.error .interrupted) h' ∧
      (h'.children h.childCount).killed = true
  /-- An interrupt later than that, or none: the operation returns unless it waits for an output
  that has no end, or for a child that nobody has interrupted. It counts as cancelled exactly if the
  child did not succeed; if it did, the result is that of the run without any interrupt. -/
  armed : h.interrupted token = false →
    (h.replyTo (b.argv r.arguments)).fate.spawnError? b.executable = none →
    h.struckAt token h.commands.length .spawn = false →
    (∃ x o h', r.run b token h = .ok x h' ∧ (h'.children h.childCount).outcome? = some o ∧
      (h'.interrupted token = true → (x = .error .interrupted ↔ o ≠ .code 0)) ∧
      (o = .code 0 → Act.returned? (r.run b token) h.stilled = some x)) ∨
    ∃ halt h', r.run b token h = .error halt h' ∧
      (r.Stuck (h.replyTo (b.argv r.arguments)).output ∨
        h'.interrupted token = false ∧ (h'.children h.childCount).hasEnded = false)
  /-- Without an interrupt no operation counts as cancelled. -/
  free : ∀ x h', r.run b token h = .ok x h' → h'.interrupted token = false →
    x ≠ .error .interrupted

theorem isSuccess_iff (o : Outcome) : o.isSuccess = true ↔ o = .code 0 := by
  cases o <;> simp

section result
variable (output : Output) (o : Outcome)

theorem verdict_ne_interrupted (command : String) :
    verdict command o ≠ .error .interrupted := by
  cases o with
  | unknown => simp [verdict]
  | code n => by_cases zero : n = 0 <;> simp [verdict, zero]

theorem read_ne_interrupted (q : Query) (text : String) : q.read text ≠ .error .interrupted := by
  cases q with
  | connect address =>
    rw [read_connect]
    split <;> simp
  | property serial name => exact nofun
  | serialNumber => exact nofun
  | devices => exact nofun
  | route serial => exact nofun

theorem answered_ne_interrupted (q : Query) (capture : Except Fault Capture) :
    answered q o capture ≠ .error .interrupted := by
  match capture with
  | .error cause => exact nofun
  | .ok (.overflow head) => exact nofun
  | .ok (.complete bytes) =>
    unfold answered
    cases judged : verdict q.name o with
    | ok _ => exact nofun
    | error e =>
      intro eq
      obtain rfl := Except.error.inj eq
      exact verdict_ne_interrupted o q.name judged

/-- No output and no outcome looks like a cancellation. -/
theorem result_ne_interrupted (r : Request) : r.result output o ≠ .error .interrupted := by
  cases r with
  | act a => exact verdict_ne_interrupted o a.name
  | ask q =>
    change answered q o (captured q output) >>= q.read ≠ .error .interrupted
    cases answer : answered q o (captured q output) with
    | error e =>
      intro eq
      obtain rfl := Except.error.inj eq
      exact answered_ne_interrupted o q _ answer
    | ok text => exact read_ne_interrupted q text

end result

section run
variable {b : Bridge} {token : String} (r : Request) {h : Host}

/-- A child that succeeds is not disturbed by anybody: where nothing interrupts, its operation
returns what it returns elsewhere. -/
theorem run_stilled (idle : h.interrupted token = false)
    (succeeds : (h.replyTo (b.argv r.arguments)).fate = .exits (.code 0))
    (ends : ¬ r.Stuck (h.replyTo (b.argv r.arguments)).output) :
    Act.returned? (r.run b token) h.stilled =
      some (r.result (h.replyTo (b.argv r.arguments)).output (.code 0)) := by
  obtain ⟨h', run⟩ := run_succeeds (h := h.stilled) (b := b) r idle succeeds rfl ends
  unfold Act.returned?
  rw [run]
  rfl

/-- What happens to an operation once its child was started. -/
theorem run_armed (idle : h.interrupted token = false)
    (started : (h.replyTo (b.argv r.arguments)).fate.spawnError? b.executable = none)
    (unstruck : h.struckAt token h.commands.length .spawn = false) :
    (∃ x o h', r.run b token h = .ok x h' ∧ (h'.children h.childCount).outcome? = some o ∧
      (h'.interrupted token = true → (x = .error .interrupted ↔ o ≠ .code 0)) ∧
      (o = .code 0 → Act.returned? (r.run b token) h.stilled = some x)) ∨
    ∃ halt h', r.run b token h = .error halt h' ∧
      (r.Stuck (h.replyTo (b.argv r.arguments)).output ∨
        h'.interrupted token = false ∧ (h'.children h.childCount).hasEnded = false) := by
  obtain ⟨h₁, launched, tended⟩ := run_launched (b := b) r idle started
  obtain ⟨h₀, outcome₀, only₀⟩ := launched.born
  have calm : h₁.interrupted token = false := by rw [launched.flag, idle, unstruck]; rfl
  generalize r.run b token h = result at tended
  cases tended with
  | abandoned raised _ _ => simp [calm] at raised
  | stuck _ stuck => exact .inr ⟨_, _, rfl, .inl stuck⟩
  | running _ idle' running _ => exact .inr ⟨_, _, rfl, .inr ⟨idle', running⟩⟩
  | @ended o x h' _ ends outcome eq _ only =>
    have other := result_ne_interrupted (h.replyTo (b.argv r.arguments)).output o r
    refine .inl ⟨x, o, h', rfl, outcome, fun raised => ?_, fun success => ?_⟩
    · cases succeeded : o.isSuccess with
      | true =>
        have code := (isSuccess_iff o).mp succeeded
        simp only [succeeded, Bool.not_true, Bool.false_and, Bool.false_eq_true, if_false] at eq
        rw [eq]
        exact ⟨fun cancelled => absurd cancelled other, fun failed => absurd code failed⟩
      | false =>
        simp only [succeeded, raised, Bool.not_false, Bool.and_true, if_true] at eq
        refine ⟨fun _ code => ?_, fun _ => eq⟩
        simp [(isSuccess_iff o).mpr code] at succeeded
    · subst success
      have outcome' := (only₀.trans only).outcome outcome
      rw [outcome₀] at outcome'
      -- Only a command that exits with zero by itself comes to this outcome.
      have fate : (h.replyTo (b.argv r.arguments)).fate = .exits (.code 0) := by
        cases fate : (h.replyTo (b.argv r.arguments)).fate <;>
          simp [fate, Fate.outcome?] at outcome'
        rw [← outcome']
      rw [run_stilled r idle fate ends]
      exact congrArg some eq.symm

/-- An operation that an interrupt overtakes does not count as cancelled only if its command
succeeded all the same or could not be started. -/
theorem run_uncancelled {x : Except BridgeError r.Value} {h' : Host}
    (ran : r.run b token h = .ok x h') (raised : h'.interrupted token = true)
    (regular : x ≠ .error .interrupted) :
    (h'.children h.childCount).outcome? = some (.code 0) ∨
      ∃ cause, x = .error (.spawn r.name cause) := by
  cases idle : h.interrupted token with
  | true =>
    rw [run_refused r idle] at ran
    cases ran
    exact absurd rfl regular
  | false =>
    cases failed : (h.replyTo (b.argv r.arguments)).fate.spawnError? b.executable with
    | some cause =>
      obtain ⟨h₁, ran'⟩ := run_failed r idle failed
      rw [ran'] at ran
      cases ran
      exact .inr ⟨cause, rfl⟩
    | none =>
      obtain ⟨h₁, -, tended⟩ := run_launched (b := b) r idle failed
      rw [ran] at tended
      cases tended with
      | abandoned => exact absurd rfl regular
      | @ended o _ _ _ _ outcome eq _ _ =>
        cases succeeded : o.isSuccess with
        | true => exact .inl (outcome.trans (congrArg some ((isSuccess_iff o).mp succeeded)))
        | false =>
          simp only [succeeded, raised, Bool.not_false, Bool.and_true, if_true] at eq
          exact absurd eq regular

end run

/-- Every operation heeds interrupts in this way, whatever its command does and whenever an
interrupt comes. -/
theorem request_heeds (b : Bridge) (token : String) (r : Request) (h : Host) :
    Heeding b token r h where
  before raised := run_refused r raised
  unstarted cause idle failed := run_failed r idle failed
  unarmed idle started struck := by
    obtain ⟨h₁, launched, tended⟩ := run_launched (b := b) r idle started
    have raised : h₁.interrupted token = true := by rw [launched.flag, idle, struck]; rfl
    generalize r.run b token h = result at tended
    cases tended with
    | abandoned _ _ killed => exact ⟨_, rfl, killed⟩
    | ended idle' => simp [raised] at idle'
    | stuck idle' => simp [raised] at idle'
    | running idle' => simp [raised] at idle'
  armed := run_armed r
  free x h' run free := by
    cases idle : h.interrupted token with
    | true =>
      rw [run_refused r idle] at run
      cases run
      simp [idle] at free
    | false =>
      cases failed : (h.replyTo (b.argv r.arguments)).fate.spawnError? b.executable with
      | some cause =>
        obtain ⟨h₁, run'⟩ := run_failed r idle failed
        rw [run'] at run
        cases run
        exact nofun
      | none =>
        obtain ⟨h₁, launched, tended⟩ := run_launched (b := b) r idle failed
        rw [run] at tended
        cases tended with
        | abandoned _ raised _ => simp [raised] at free
        | ended _ _ _ eq _ _ =>
          simp only [free, Bool.and_false, Bool.false_eq_true, if_false] at eq
          exact eq ▸ result_ne_interrupted _ _ r

end DebugBridge
