import DebugBridge.Proofs.Bridge.Course
import DebugBridge.Proofs.Host.Custody

/-!
# How an action ends

A call that is blocked on a child never returns before the child has ended. So an action returns
with the outcome of its child decided, and an action that does not return has left its child
running.
-/

namespace DebugBridge

open Host

/-- Waiting, disarming and releasing return the outcome of the child, and only when it has one. -/
theorem conclude_cases (token : String) (child : Nat) (h : Host) :
    (∃ o h', conclude token child h = .ok o h' ∧ (h'.children child).outcome? = some o) ∨
      ∃ halt h', conclude token child h = .error halt h' ∧
        (h'.children child).outcome? = none := by
  unfold conclude
  rw [Act.bind_apply]
  obtain ⟨o, h₁, e, outcome⟩ | ⟨halt, h₁, e, running⟩ := wait_cases child false h
  · have decided : ((h₁.updateToken token Cancel.Token.disarm).children child).outcome? = some o :=
      outcome
    simp only [e, Act.bind_apply, disarm, Act.modify_apply, Act.pure_apply]
    obtain ⟨o', h₂, e', outcome'⟩ | ⟨halt, h₂, e', running⟩ :=
      wait_cases child true (h₁.updateToken token Cancel.Token.disarm)
    · have quiet := quiet_of_tended ((@within_wait token child true).ok e')
      have kept := quiet.outcomes child o decided
      exact .inl ⟨o, h₂, by simp only [e'], kept⟩
    · exact .inr ⟨halt, h₂, by simp only [e'], running⟩
  · exact .inr ⟨halt, h₁, by simp only [e], running⟩

/-- A child that is given up has ended. -/
theorem abandon_ok (child : Nat) (h : Host) :
    ∃ o h', abandon child h = .ok () h' ∧ (h'.children child).outcome? = some o := by
  have killed : ((h.killChild child).2.children child).outcome? =
      some ((h.children child).outcome?.getD .unknown) := by
    simp [killChild, updateChild, Child.kill]
  have reaped : ∀ h₁ : Host, (∃ o, (h₁.children child).outcome? = some o) →
      ∃ o h', (do let _ ← wait child true : Act Unit) h₁ = .ok () h' ∧
        (h'.children child).outcome? = some o := by
    rintro h₁ ⟨o, decided⟩
    obtain ⟨o', h₂, e, outcome⟩ | ⟨halt, h₂, e, running⟩ := wait_cases child true h₁
    · exact ⟨o', h₂, by rw [Act.bind_apply, e]; rfl, outcome⟩
    · have quiet := quiet_of_tended ((@within_wait "" child true).error e)
      simp [quiet.outcomes child o decided] at running
  unfold abandon
  rw [Act.bind_apply, kill, Act.modifyGet_apply]
  cases fault : (h.killChild child).1 with
  | none => exact reaped _ ⟨_, killed⟩
  | some cause =>
    simp only [Act.bind_apply, Act.get_apply, Act.note_apply] at reaped ⊢
    exact reaped (Host.note .debug _ (h.killChild child).2) ⟨_, killed⟩

/-- What the outcome of a command says about it when nobody interferes. -/
def verdict (command : String) : Outcome → Except BridgeError Unit
  | .code n => if n = 0 then .ok () else .error (.nonZeroExit command n)
  | .unknown => .error (.abnormalExit command)

theorem judge_ok (command : String) (o : Outcome) (h : Host) :
    ∃ events, judge command o h = .ok (verdict command o) { h with events := events } := by
  cases o with
  | unknown => exact ⟨_, rfl⟩
  | code n =>
    unfold judge verdict
    by_cases zero : n = 0
    · exact ⟨h.events, by simp [zero, Act.pure_apply]⟩
    · simp only [zero, if_false]
      exact ⟨_, rfl⟩

theorem reportUnstarted_ok (command : String) (argv : List String) (cause : SpawnError) (h : Host) :
    ∃ events, reportUnstarted command argv cause h =
      .ok (.spawn command cause) { h with events := events } := by
  cases cause <;> exact ⟨_, rfl⟩

namespace Host

/-- The outcome of a command, unless it was not started or still runs. -/
def outcomeOf? (c : Command) (h : Host) : Option Outcome :=
  c.child?.bind fun child => (h.children child).outcome?

def Settled (c : Command) (h : Host) : Prop :=
  ∀ child, c.child? = some child → child < h.childCount ∧ (h.children child).hasEnded = true

def Running (c : Command) (h : Host) : Prop :=
  ∃ child, c.child? = some child ∧ (h.children child).hasEnded = false

/-- The outcome of a settled command never changes. -/
theorem outcomeOf?_onward {token : String} {c : Command} {h h' : Host} (onward : Onward token h h')
    (settled : Settled c h) : outcomeOf? c h' = outcomeOf? c h := by
  unfold outcomeOf?
  cases e : c.child? with
  | none => rfl
  | some child =>
    obtain ⟨lt, ended⟩ := settled child e
    obtain ⟨o, outcome⟩ := Option.isSome_iff_exists.mp ended
    simp only [Option.bind_some, outcome, onward.outcomes child o lt outcome]

theorem Settled.onward {token : String} {c : Command} {h h' : Host} (settled : Settled c h)
    (onward : Onward token h h') : Settled c h' := by
  intro child e
  obtain ⟨lt, ended⟩ := settled child e
  obtain ⟨o, outcome⟩ := Option.isSome_iff_exists.mp ended
  exact ⟨Nat.lt_of_lt_of_le lt onward.childCount,
    Option.isSome_iff_exists.mpr ⟨o, onward.outcomes child o lt outcome⟩⟩

/-- Through a token that was not interrupted exactly one command was issued. -/
structure Issued (b : Bridge) (token : String) (arguments : List String) (mode : Mode)
    (c : Command) (h h' : Host) : Prop where
  idle : h.interrupted token = false
  commands : h'.commands = c :: h.commands
  argv : c.argv = b.argv arguments
  mode : c.mode = mode

theorem Issued.write {b : Bridge} {token : String} {arguments : List String} {mode : Mode}
    {c : Command} {h h₁ h₂ : Host} (issued : Issued b token arguments mode c h h₁)
    (same : h₂.commands = h₁.commands) : Issued b token arguments mode c h h₂ :=
  ⟨issued.idle, same.trans issued.commands, issued.argv, issued.mode⟩

end Host

/-- The ways in which an action ends. -/
inductive Acted (b : Bridge) (token : String) (a : Action) (h : Host) :
    EStateM.Result Halt Host (Except BridgeError Unit) → Prop where
  /-- The token was interrupted before. -/
  | refused : h.interrupted token = true → Acted b token a h (.ok (.error .interrupted) h)
  | succeeded {c : Command} {h' : Host} : Issued b token a.arguments a.mode c h h' →
      Settled c h' → outcomeOf? c h' = some (.code 0) → Acted b token a h (.ok (.ok ()) h')
  /-- The interrupt came while the command was run. -/
  | cancelled {c : Command} {h' : Host} : Issued b token a.arguments a.mode c h h' →
      Settled c h' → h'.interrupted token = true → Acted b token a h (.ok (.error .interrupted) h')
  | failed {c : Command} {h' : Host} {e : BridgeError} : Issued b token a.arguments a.mode c h h' →
      Settled c h' → outcomeOf? c h' ≠ some (.code 0) → e.isInterrupted = false →
      Acted b token a h (.ok (.error e) h')
  /-- The command runs, and nothing is left that would end it. -/
  | halted {c : Command} {h' : Host} {halt : Halt} : Issued b token a.arguments a.mode c h h' →
      Running c h' → Acted b token a h (.error halt h')

/-- Once the child of a command was started, the action ends as the child does. -/
theorem supervised {b : Bridge} {token : String} {a : Action} {h h₁ : Host} {child : Nat}
    {c : Command} (issued : Issued b token a.arguments a.mode c h h₁) (own : c.child? = some child)
    (lt : child < h₁.childCount) :
    Acted b token a h (Bridge.supervise token child (return ())
      (fun outcome _ => judge a.name outcome) h₁) := by
  have issuedAt : ∀ {h₂ : Host}, Quiet h₁ h₂ → Issued b token a.arguments a.mode c h h₂ :=
    fun quiet => ⟨issued.idle, quiet.commands.trans issued.commands, issued.argv, issued.mode⟩
  have settledAt : ∀ {h₂ : Host} {o : Outcome}, Quiet h₁ h₂ →
      (h₂.children child).outcome? = some o → Settled c h₂ := by
    intro h₂ o quiet outcome other own'
    obtain rfl : child = other := Option.some.inj (own.symm.trans own')
    exact ⟨quiet.childCount ▸ lt, by simp [Child.hasEnded, outcome]⟩
  unfold Bridge.supervise
  rw [Act.bind_apply]
  cases idle : h₁.interrupted token with
  | true =>
    obtain ⟨o, h₂, e, outcome⟩ := abandon_ok child h₁
    have quiet := quiet_of_tended ((@within_abandon token child).ok e)
    simp only [arm_interrupted idle, Bool.false_eq_true, if_false, Act.bind_apply, e,
      Act.pure_apply]
    exact .cancelled (issuedAt quiet) (settledAt quiet outcome) (quiet.flags token idle)
  | false =>
    obtain ⟨events, armed⟩ := arm_idle (r := .process child) idle
    have quiet₂ := quiet_of_tended ((@within_arm token child).ok armed)
    simp only [armed, if_true, Act.bind_apply, Act.pure_apply]
    obtain ⟨o, h₃, e, outcome⟩ | ⟨halt, h₃, e, running⟩ := conclude_cases token child
      (({ h₁ with events := events } : Host).updateToken token fun t => (t.arm (.process child)).2)
    · have quiet := quiet₂.trans (quiet_of_tended (within_conclude.ok e))
      have own : outcomeOf? c h₃ = some o := by simp [outcomeOf?, own, outcome]
      simp only [e, wasCancelled, Act.bind_apply, Act.isInterrupted_apply, Act.pure_apply]
      cases cancelled : !o.isSuccess && h₃.interrupted token with
      | true =>
        simp only [if_true]
        have raised : h₃.interrupted token = true := by simp_all
        exact .cancelled (issuedAt quiet) (settledAt quiet outcome) raised
      | false =>
        simp only [Bool.false_eq_true, if_false]
        obtain ⟨events', judged⟩ := judge_ok a.name o h₃
        have world : SameWorld h₃ { h₃ with events := events' } := by constructor <;> rfl
        have quiet := quiet.trans world.quiet
        have issued := issuedAt quiet
        have settled := settledAt quiet outcome
        rw [judged]
        cases o with
        | unknown => exact .failed issued settled (by rw [outcomeOf?] at own ⊢; simp [own]) rfl
        | code n =>
          by_cases zero : n = 0
          · simp only [verdict, zero, if_true]
            exact .succeeded issued settled (zero ▸ own)
          · simp only [verdict, zero, if_false]
            refine .failed issued settled ?_ rfl
            rw [show outcomeOf? c { h₃ with events := events' } = some (.code n) from own]
            simpa using zero
    · have quiet := quiet₂.trans (quiet_of_tended (within_conclude.error e))
      simp only [e]
      exact .halted (issuedAt quiet) ⟨child, own, by simp [Child.hasEnded, running]⟩

section spawn
variable {argv : List String} {mode : Mode} {h : Host}

/-- A command that is handed to the system has a new child, or none. -/
inductive Spawned (argv : List String) (mode : Mode) (h : Host) :
    EStateM.Result Halt Host (Except SpawnError (Nat × Output)) → Prop
  | failed {cause : SpawnError} {h' : Host} : h'.commands = ⟨argv, mode, none⟩ :: h.commands →
      h'.childCount = h.childCount → (∀ id, Spares id h h') → ArmsOnly [] h h' →
      Spawned argv mode h (.ok (.error cause) h')
  | started {output : Output} {h' : Host} :
      h'.commands = ⟨argv, mode, some h.childCount⟩ :: h.commands →
      h'.childCount = h.childCount + 1 →
      (h'.children h.childCount).command? = some h.commands.length → Aside h.childCount h h' →
      (h.Grounded → Newborn h.childCount h') →
      Spawned argv mode h (.ok (.ok (h.childCount, output)) h')

/-- The strikes at the start of a command leave everybody alone. -/
theorem strike_aside (command : Nat) (point : Point) (h : Host) :
    (∀ id, Spares id h (h.strike command point)) ∧ ArmsOnly [] h (h.strike command point) ∧
      (h.strike command point).commands = h.commands ∧
      (h.strike command point).childCount = h.childCount ∧
      ∀ id, ((h.strike command point).children id).command? = (h.children id).command? := by
  have quiet := quiet_of_tended (strike_within (tolerant_tending "" 0) command point h)
  exact ⟨fun id => spares_of_run (strike_within (tolerant_spares id) command point h),
    armsOnly_of_run (strike_within (tolerant_armsOnly []) command point h),
    quiet.commands, quiet.childCount, quiet.numbers⟩

theorem spawned (b : Bridge) (arguments : List String) (mode : Mode) (h : Host) :
    Spawned (b.argv arguments) mode h (spawn (b.argv arguments) mode h) := by
  have spawned : spawn (b.argv arguments) mode h = .ok (h.start (b.argv arguments) mode).1
      ((h.start (b.argv arguments) mode).2.strike h.commands.length .spawn) := rfl
  rw [spawned]
  have started (id : Nat) (ne : id ≠ h.childCount) := start_spares (b.argv arguments) mode ne
  obtain ⟨spared, armed, commands, childCount, numbers⟩ := strike_aside h.commands.length .spawn
    (h.start (b.argv arguments) mode).2
  cases refused : (h.replyTo (b.argv arguments)).fate.spawnError? b.executable with
  | some cause =>
    have e : h.start (b.argv arguments) mode = _ := start_refused refused mode
    have handed (id : Nat) : Spares id h (h.start (b.argv arguments) mode).2 := by
      rw [e]
      exact fun loose => ⟨loose, Nat.le_refl _, rfl, rfl⟩
    have unspared (id : Nat) := (handed id).trans (spared id)
    rw [e] at unspared armed commands childCount ⊢
    exact .failed commands childCount unspared armed
  | none =>
    obtain ⟨pid, stdout, e⟩ := start_child refused mode
    change h.start (b.argv arguments) mode = _ at e
    have others (id : Nat) (ne : id ≠ h.childCount) := (started id ne).trans (spared id)
    have newborn (grounded : h.Grounded) : Newborn h.childCount
        (h.start (b.argv arguments) mode).2 := by
      obtain ⟨loose, unasked⟩ := grounded h.childCount (Nat.le_refl _)
      rw [e]
      exact ⟨Nat.lt_succ_self _, loose, unasked⟩
    have born (grounded : h.Grounded) := (newborn grounded).spared (spared h.childCount)
    rw [e] at others armed commands childCount numbers born ⊢
    have number := (numbers h.childCount).trans (congrArg Child.command? (assign_same _ _ _))
    exact .started commands childCount number
      ⟨others, fun name r _ held => armed name r (by simp) held⟩ born

end spawn

/-- Every action ends in one of these ways, whatever its command does and whenever it is
interrupted. -/
theorem acted (b : Bridge) (token : String) (a : Action) (h : Host) :
    Acted b token a h (b.act token a h) := by
  cases idle : h.interrupted token with
  | true =>
    unfold Bridge.act
    rw [issue_refused idle]
    exact .refused idle
  | false =>
    unfold Bridge.act
    obtain ⟨text, started⟩ := issue_idle b token a.arguments a.mode _
    rw [started h idle, Act.bind_apply]
    have handed := spawned b a.arguments a.mode (h.note .debug text)
    generalize spawn (b.argv a.arguments) a.mode (h.note .debug text) = result at handed
    cases handed with
    | @failed cause h₁ commands _ _ _ =>
      obtain ⟨events', reported⟩ := reportUnstarted_ok a.name (b.argv a.arguments) cause h₁
      have issued : Issued b token a.arguments a.mode _ h { h₁ with events := events' } :=
        ⟨idle, commands, rfl, rfl⟩
      simp only [Act.bind_apply, reported, Act.pure_apply]
      exact .failed issued (fun child own => by simp at own) (by simp [outcomeOf?]) rfl
    | @started output h₁ commands childCount _ _ _ =>
      exact supervised ⟨idle, commands, rfl, rfl⟩ rfl (childCount ▸ Nat.lt_succ_self _)

end DebugBridge
