import DebugBridge.Proofs.Bridge.Verdict

/-!
# The life of a child

Whatever a command does and whenever it is interrupted: when its operation returns, its child has
ended and was released by the last call that is ever made on it. Until then nobody waited for a
child that no interrupt could have killed, and afterwards no token is armed with it.
-/

namespace DebugBridge

open Host Relation

/-- How it went with a child that was started: it was released, or it is still looked after. -/
inductive Cared {α : Type} (token : String) (child : Nat) : EStateM.Result Halt Host α → Prop where
  | released {a : α} {h' : Host} : Released token child h' → Cared token child (.ok a h')
  | halted {halt : Halt} {h' : Host} : Kept token child h' → Cared token child (.error halt h')

section cared
variable {α β : Type} {token : String} {child : Nat} {h : Host}

theorem Cared.notes {m : Act α} {f : α → Act β} (cared : Cared token child (m h))
    (rest : ∀ a, Act.Notes (f a)) : Cared token child ((m >>= f) h) := by
  rw [Act.bind_apply]
  generalize m h = result at cared
  cases cared with
  | @released a h' released =>
    obtain ⟨a', events, e⟩ := rest a h'
    have world : SameWorld h' { h' with events := events } := by constructor <;> rfl
    simp only [e]
    exact .released (released.spared (world.spares child))
  | halted kept => exact .halted kept

/-- Waiting, disarming and releasing release the child or look after it for ever. -/
theorem concluded (kept : Kept token child h) : Cared token child (conclude token child h) := by
  unfold conclude
  rw [Act.bind_apply]
  obtain ⟨o, h₁, e, kept₁, ended⟩ | ⟨halt, h₁, e, kept₁⟩ := kept.waited
  · obtain ⟨o', h₂, e', released⟩ := (kept₁.disarmed ended).waited kept₁.unreleased
    simp only [e, Act.bind_apply, disarm, Act.modify_apply, Act.pure_apply, e']
    exact .released released
  · simp only [e]
    exact .halted kept₁

/-- A child that is given up is released. -/
theorem abandoned (token : String) (newborn : Newborn child h) :
    ∃ h', abandon child h = .ok () h' ∧ Released token child h' := by
  obtain ⟨ended, unreleased⟩ := newborn.killed token
  have reaped (h₁ : Host) (same : SameWorld (h.killChild child).2 h₁) :
      ∃ h', (do let _ ← wait child true : Act Unit) h₁ = .ok () h' ∧ Released token child h' := by
    have spares := same.spares child
    have unreleased₁ : .reap ∉ h₁.callsOn child :=
      callsOn_spared (spares ended.loose) ▸ unreleased
    obtain ⟨o, h', e, released⟩ := (ended.spared spares).waited unreleased₁
    exact ⟨h', by rw [Act.bind_apply, e]; rfl, released⟩
  unfold abandon
  rw [Act.bind_apply, kill, Act.modifyGet_apply]
  cases (h.killChild child).1 with
  | none => exact reaped _ (SameWorld.refl _)
  | some cause =>
    simp only [Act.bind_apply, Act.get_apply, Act.note_apply] at reaped ⊢
    exact reaped _ (by constructor <;> rfl)

/-- To look after a new child is to release it or to go on for ever. -/
theorem supervise_cared {meanwhile : Act β} {finish : Outcome → β → Act (Except BridgeError α)}
    (attended : Act.Within (Keeps token child) meanwhile)
    (last : ∀ outcome result, Act.Notes (finish outcome result)) (newborn : Newborn child h) :
    Cared token child (Bridge.supervise token child meanwhile finish h) := by
  unfold Bridge.supervise
  rw [Act.bind_apply]
  cases idle : h.interrupted token with
  | true =>
    obtain ⟨h', e, released⟩ := abandoned token newborn
    simp only [arm_interrupted idle, Bool.false_eq_true, if_false, Act.bind_apply, e,
      Act.pure_apply]
    exact .released released
  | false =>
    obtain ⟨events, armed⟩ := arm_idle (r := .process child) idle
    have world : SameWorld h { h with events := events } := by constructor <;> rfl
    have kept : Kept token child (({ h with events := events } : Host).updateToken token
        fun t => (t.arm (.process child)).2) := (newborn.spared (world.spares child)).armed idle
    simp only [armed, if_true]
    rw [Act.bind_apply]
    generalize run : meanwhile _ = result
    cases result with
    | error halt h₁ => exact .halted (keeps_of_run (attended.error run) kept)
    | ok b h₁ =>
      have kept₁ := keeps_of_run (attended.ok run) kept
      refine (concluded kept₁).notes fun outcome => Act.notes_bind
        (Act.compositional_notes.map _ (Act.compositional_notes.isInterrupted token))
        fun cancelled => ?_
      split
      · exact Act.notes_pure _
      · exact last outcome b

end cared

inductive Operation (b : Bridge) (token : String) : {α : Type} → Act α → Prop
  | act (a : Action) : Operation b token (b.act token a)
  | ask (q : Query) : Operation b token (b.ask token q)
  | connect (address : String) : Operation b token (b.connect token address)
  | property (serial name : String) : Operation b token (b.property token serial name)
  | serialNumber : Operation b token (b.serialNumber token)
  | devices : Operation b token (b.devices token)
  | address (serial : String) : Operation b token (b.address token serial)

/-- What may happen later: an interrupt, another operation, a socket that is about to block or no
longer does, and whatever leaves the children and the tokens alone. -/
inductive Later : Host → Host → Prop
  | interrupt (name : String) (h : Host) : Later h (h.interrupt name)
  | operate {b : Bridge} {token : String} {α : Type} {m : Act α} :
      Operation b token m → (h : Host) → Later h (Act.after m h)
  | arm (name : String) (socket : Nat) (h : Host) :
      Later h (h.updateToken name fun t => (t.arm (.socket socket)).2)
  | disarm (name : String) (h : Host) : Later h (h.updateToken name Cancel.Token.disarm)
  | elsewhere {h h' : Host} : h'.childCount = h.childCount → h'.children = h.children →
      h'.occasions = h.occasions → h'.tokens = h.tokens → Later h h'

/-- How it went with a command. -/
inductive Lifecycle {α : Type} (token : String) (h : Host) : EStateM.Result Halt Host α → Prop
  /-- Through an interrupted token nothing is started. -/
  | refused {a : α} {h' : Host} : h.interrupted token = true → SameWorld h h' →
      Lifecycle token h (.ok a h')
  /-- What could not be started has no child, and nothing is asked of any other. -/
  | unstarted {a : α} {h' : Host} {c : Command} : h'.commands = c :: h.commands →
      c.child? = none → h'.childCount = h.childCount → (∀ id, Spares id h h') → ArmsOnly [] h h' →
      Lifecycle token h (.ok a h')
  /-- The child was released, whatever happens later nothing is asked of it any more, and no token
  is armed with anything new. -/
  | released {a : α} {h' : Host} {c : Command} : h'.commands = c :: h.commands →
      c.child? = some h.childCount → h'.childCount = h.childCount + 1 →
      Released token h.childCount h' → (∀ id, id ≠ h.childCount → Spares id h h') →
      ArmsOnly [] h h' →
      (∀ h'', ReflTransGen Later h' h'' → h''.callsOn h.childCount = h'.callsOn h.childCount) →
      Lifecycle token h (.ok a h')
  /-- The operation does not return; the child is still looked after. -/
  | halted {halt : Halt} {h' : Host} : Kept token h.childCount h' →
      Lifecycle token h (.error halt h')

/-- What is done once a command was handed to the system: a child is looked after, a failure is
reported. -/
structure Manages {α : Type} (token : String)
    (proceed : Except SpawnError (Nat × Output) → Act (Except BridgeError α)) : Prop where
  failed : ∀ cause, Act.Notes (proceed (.error cause))
  tended : ∀ child output, Act.Within (Tending token child) (proceed (.ok (child, output)))
  cared : ∀ child output h, Newborn child h → Cared token child (proceed (.ok (child, output)) h)

section issue
variable {α : Type} {token : String}
  {proceed : Except SpawnError (Nat × Output) → Act (Except BridgeError α)} {h : Host}

theorem spares_note (id : Nat) (severity : Severity) (text : String) (h : Host) :
    Spares id h (h.note severity text) :=
  SameWorld.spares (by constructor <;> rfl) id

/-- A command leaves every child alone but its own. -/
theorem issue_spares (b : Bridge) (arguments : List String) (mode : Mode)
    (manages : Manages token proceed) {id : Nat} (ne : id ≠ h.childCount) :
    Spares id h (Act.after (b.issue token arguments mode proceed) h) := by
  cases idle : h.interrupted token with
  | true =>
    rw [Act.after_ok (issue_refused idle proceed)]
    exact Spares.refl id h
  | false =>
    obtain ⟨text, issued⟩ := issue_idle b token arguments mode proceed
    have noted := spares_note id .debug text h
    have handed := spawned b arguments mode (h.note .debug text)
    unfold Act.after
    rw [issued h idle]
    change Spares id h (Act.after (spawn (b.argv arguments) mode >>= proceed) (h.note .debug text))
    generalize e : spawn (b.argv arguments) mode (h.note .debug text) = result at handed
    cases handed with
    | @failed cause h₁ _ _ spared _ =>
      rw [Act.after_bind_ok e]
      exact (noted.trans (spared id)).trans
        ((Act.after_notes (manages.failed cause) h₁).spares id)
    | @started output h₁ _ _ _ aside _ =>
      rw [Act.after_bind_ok e]
      have tended := manages.tended h.childCount output h₁
      exact (noted.trans (aside.others id ne)).trans ((aside_of_tended tended).others id ne)

end issue

/-- An action manages its child. -/
theorem act_manages (b : Bridge) (token : String) (a : Action) :
    ∃ proceed, Manages token proceed ∧
      b.act token a = b.issue token a.arguments a.mode proceed := by
  refine ⟨_, ⟨fun cause => ?_, fun child output => ?_, fun child output h newborn => ?_⟩, rfl⟩
  · exact Act.compositional_notes.map _ (Act.compositional_notes.reportUnstarted _ _ cause)
  · exact within_supervise (Act.within_pure ()) fun outcome _ =>
      (compositional_within (tolerant_tending token child)).judge a.name outcome
  · exact supervise_cared (Act.within_pure ())
      (fun outcome _ => Act.compositional_notes.judge a.name outcome) newborn

/-- A query manages its child. -/
theorem ask_manages (b : Bridge) (token : String) (q : Query) :
    ∃ proceed, Manages token proceed ∧
      b.ask token q = b.issue token q.arguments .capture proceed := by
  refine ⟨_, ⟨fun cause => ?_, fun child output => ?_, fun child output h newborn => ?_⟩, rfl⟩
  · exact Act.compositional_notes.map _ (Act.compositional_notes.reportUnstarted _ _ cause)
  · exact within_supervise (within_readAll (attentive_tending token child) q output)
      fun outcome result =>
        (compositional_within (tolerant_tending token child)).answer q outcome result
  · exact supervise_cared (within_readAll (attentive_keeps token child) q output)
      (fun outcome result => Act.compositional_notes.answer q outcome result) newborn

/-- Every operation is one command and what is made of its answer. -/
theorem Operation.form {b : Bridge} {token : String} {β : Type} {m : Act β}
    (operation : Operation b token m) :
    ∃ (α : Type) (arguments : List String) (mode : Mode)
      (proceed : Except SpawnError (Nat × Output) → Act (Except BridgeError α))
      (f : Except BridgeError α → Act β), Manages token proceed ∧ (∀ a, Act.Notes (f a)) ∧
        m = b.issue token arguments mode proceed >>= f := by
  have asked (q : Query) {γ : Type} (f : Except BridgeError String → Act γ)
      (notes : ∀ a, Act.Notes (f a)) : ∃ (α : Type) (arguments : List String) (mode : Mode)
        (proceed : Except SpawnError (Nat × Output) → Act (Except BridgeError α))
        (g : Except BridgeError α → Act γ), Manages token proceed ∧ (∀ a, Act.Notes (g a)) ∧
          b.ask token q >>= f = b.issue token arguments mode proceed >>= g := by
    obtain ⟨proceed, manages, e⟩ := ask_manages b token q
    exact ⟨String, q.arguments, .capture, proceed, f, manages, notes, by rw [e]⟩
  cases operation with
  | act a =>
    obtain ⟨proceed, manages, e⟩ := act_manages b token a
    exact ⟨Unit, _, _, proceed, pure, manages, Act.notes_pure, by rw [e, bind_pure]⟩
  | ask q =>
    obtain ⟨proceed, manages, e⟩ := ask_manages b token q
    exact ⟨String, _, _, proceed, pure, manages, Act.notes_pure, by rw [e, bind_pure]⟩
  | connect address =>
    refine asked (.connect address) _ fun result => ?_
    cases result with
    | error e => exact Act.notes_pure _
    | ok output =>
      dsimp only
      split
      · exact Act.notes_bind (Act.notes_note _ _) fun _ => Act.notes_pure _
      · exact Act.notes_pure _
  | property serial name => exact asked (.property serial name) _ fun _ => Act.notes_pure _
  | serialNumber => exact asked .serialNumber _ fun _ => Act.notes_pure _
  | devices =>
    refine asked .devices _ fun result => ?_
    cases result with
    | error e => exact Act.notes_pure _
    | ok output => exact Act.notes_bind (Act.notes_noteAll _) fun _ => Act.notes_pure _
  | address serial =>
    refine asked (.route serial) _ fun result => ?_
    cases result with
    | error e => exact Act.notes_pure _
    | ok output => exact Act.notes_bind (Act.notes_noteAll _) fun _ => Act.notes_pure _

section operation
variable {α : Type} {b : Bridge} {token : String} {m : Act α} {id : Nat} {h h' : Host}

theorem Operation.spares (operation : Operation b token m) (ne : id ≠ h.childCount) :
    Spares id h (Act.after m h) := by
  obtain ⟨β, arguments, mode, proceed, f, manages, notes, rfl⟩ := operation.form
  have issued := issue_spares b arguments mode manages ne
  cases e : b.issue token arguments mode proceed h with
  | ok a h₁ =>
    rw [Act.after_bind_ok e]
    rw [Act.after_ok e] at issued
    exact issued.trans ((Act.after_notes (notes a) h₁).spares id)
  | error halt h₁ =>
    rw [Act.after_bind_error e]
    rwa [Act.after_error e] at issued

theorem Later.spares (later : Later h h') (known : id < h.childCount) : Spares id h h' := by
  cases later with
  | interrupt name => exact interrupt_spares name id h
  | operate operation => exact operation.spares (Nat.ne_of_lt known)
  | arm name socket =>
    intro loose
    refine ⟨fun other => ?_, Nat.le_refl _, rfl, rfl⟩
    by_cases eq : other = name
    · subst eq
      simp only [updateToken, assign_same, Cancel.Token.arm]
      split
      · exact loose other
      · simp
    · simpa [updateToken, eq] using loose other
  | disarm name =>
    intro loose
    refine ⟨fun other => ?_, Nat.le_refl _, rfl, rfl⟩
    by_cases eq : other = name
    · simp [eq, updateToken, Cancel.Token.disarm]
    · simpa [updateToken, eq] using loose other
  | elsewhere childCount children occasions tokens =>
    intro loose
    refine ⟨fun name => tokens ▸ loose name, Nat.le_of_eq childCount.symm, by rw [children], ?_⟩
    rw [occasionsOn, occasions, occasionsOn]

/-- Whatever happens later, a child that no token is armed with is left alone. -/
theorem later_spares (run : ReflTransGen Later h h') (known : id < h.childCount) :
    Spares id h h' := by
  induction run with
  | refl => exact Spares.refl id h
  | tail _ step ih =>
    intro loose
    have spared := ih loose
    have known' := Nat.lt_of_lt_of_le known spared.childCount
    exact ih.trans (step.spares known') loose

end operation

section lifecycle
variable {α β : Type} {b : Bridge} {token : String}
  {proceed : Except SpawnError (Nat × Output) → Act (Except BridgeError α)}
  {f : Except BridgeError α → Act β} {h : Host}

/-- Once its child was started, a command releases it or goes on for ever. -/
theorem started_lifecycle (manages : Manages token proceed) (notes : ∀ a, Act.Notes (f a))
    {h₁ : Host} {c : Command} (own : c.child? = some h.childCount)
    (commands : h₁.commands = c :: h.commands) (childCount : h₁.childCount = h.childCount + 1)
    (aside : Aside h.childCount h h₁) (newborn : Newborn h.childCount h₁) (output : Output) :
    Lifecycle token h ((proceed (.ok (h.childCount, output)) >>= f) h₁) := by
  have cared := (manages.cared h.childCount output h₁ newborn).notes notes
  have tended := Act.within_bind (manages.tended h.childCount output) fun a =>
    (notes a).within (tolerant_tending token h.childCount)
  generalize run : (proceed (.ok (h.childCount, output)) >>= f) h₁ = result at cared
  cases cared with
  | @released a h' released =>
    have quiet := quiet_of_tended (tended.ok run)
    have aside' := aside.trans (aside_of_tended (tended.ok run))
    exact .released (quiet.commands.trans commands) own (quiet.childCount.trans childCount) released
      aside'.others (aside'.armed.of_loose released.loose) fun h'' later =>
        callsOn_spared (later_spares later released.known released.loose)
  | halted kept => exact .halted kept

/-- A command that is issued while nothing refers to a child that does not exist yet. -/
theorem issue_lifecycle (arguments : List String) (mode : Mode) (manages : Manages token proceed)
    (notes : ∀ a, Act.Notes (f a)) (grounded : h.Grounded) :
    Lifecycle token h ((b.issue token arguments mode proceed >>= f) h) := by
  rw [Act.bind_apply]
  cases idle : h.interrupted token with
  | true =>
    obtain ⟨a, events, e⟩ := notes (.error .interrupted) h
    rw [issue_refused idle]
    simp only [e]
    exact .refused idle (by constructor <;> rfl)
  | false =>
    obtain ⟨text, issued⟩ := issue_idle b token arguments mode proceed
    have noted (id : Nat) := spares_note id .debug text h
    have handed := spawned b arguments mode (h.note .debug text)
    rw [issued h idle, ← Act.bind_apply, bind_assoc, Act.bind_apply]
    generalize spawn (b.argv arguments) mode (h.note .debug text) = result at handed
    cases handed with
    | @failed cause h₁ commands childCount spared armed =>
      obtain ⟨a, events, e⟩ := Act.notes_bind (manages.failed cause) notes h₁
      have world : SameWorld h₁ { h₁ with events := events } := by constructor <;> rfl
      simp only [e]
      exact .unstarted commands rfl childCount
        (fun id => ((noted id).trans (spared id)).trans (world.spares id)) armed
    | @started output h₁ commands childCount _ aside newborn =>
      have aside' : Aside h.childCount h h₁ :=
        ⟨fun id ne => (noted id).trans (aside.others id ne), aside.armed⟩
      exact started_lifecycle (h := h) manages notes rfl commands childCount aside'
        (newborn grounded) output

/-- What an operation leaves behind is fit for the next one. -/
theorem Lifecycle.grounded {h' : Host} {a : α} (life : Lifecycle token h (.ok a h'))
    (grounded : h.Grounded) : h'.Grounded := by
  have kept (id : Nat) (le : h.childCount ≤ id) (spares : Spares id h h') :
      Loose id h' ∧ h'.occasionsOn id = [] := by
    obtain ⟨loose, unasked⟩ := grounded id le
    have spared := spares loose
    exact ⟨spared.loose, spared.occasions.trans unasked⟩
  intro id le
  cases life with
  | refused _ world => exact kept id (world.childCount ▸ le) (world.spares id)
  | unstarted _ _ childCount spared _ => exact kept id (childCount ▸ le) (spared id)
  | released _ _ childCount _ others _ _ =>
    rw [childCount] at le
    exact kept id (by omega) (others id (by omega))

end lifecycle

/-- Every run of an operation goes well with its child, whatever the command does, whenever tokens
are interrupted, and whatever a kill reports. -/
theorem operation_lifecycle {b : Bridge} {token : String} {α : Type} {m : Act α}
    (operation : Operation b token m) (h : Host) (grounded : h.Grounded) :
    Lifecycle token h (m h) := by
  obtain ⟨β, arguments, mode, proceed, f, manages, notes, rfl⟩ := operation.form
  exact issue_lifecycle arguments mode manages notes grounded

/-- A host on which commands run until they are killed and every kill reports a fault. -/
def Host.stubborn : Host where
  backend := fun _ _ => { fate := .hangs }
  strikes := [⟨0, .read, "work", true⟩]
  killFault? := some .permissionDenied

/-- An operation that is interrupted while its output is read. -/
theorem operation_lifecycle_interrupted :
    Operation {} "work" (({} : Bridge).devices "work") ∧ stubborn.Grounded ∧
      Lifecycle "work" stubborn (({} : Bridge).devices "work" stubborn) ∧
      (Act.after (({} : Bridge).devices "work") stubborn).callsOn 0 =
        [.reap, .wait, .kill, .read] := by
  have grounded : stubborn.Grounded := fun id _ =>
    ⟨fun name held => by simp [stubborn] at held, rfl⟩
  exact ⟨.devices, grounded, operation_lifecycle .devices stubborn grounded, by decide⟩

end DebugBridge
