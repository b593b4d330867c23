import DebugBridge.Proofs.Bridge.Verdict
import DebugBridge.Proofs.Cancel.Shadow

/-!
# Two runs of a bridge command

While a child is looked after, its command is the latest one: a strike bound to it takes effect
before another command is issued. After an interrupt every way through a command ends without one.
-/

namespace DebugBridge

open Host Cancel

namespace Host

def Latest (child : Nat) (h : Host) : Prop :=
  ∃ n, (h.children child).command? = some n ∧ n + 1 = h.commands.length

end Host

theorem course_tending (token : String) (child : Nat) :
    Course token (Tending token child) (Latest child) where
  tolerant := tolerant_tending token child
  onward _ _ step := step.quiet.onward token
  stable h h' step := by
    intro ⟨n, number, latest⟩
    exact ⟨n, (step.quiet.numbers child).trans number, step.quiet.commands ▸ latest⟩

theorem course_step (token : String) : Course token (Step token) fun _ => True where
  tolerant := tolerant_step token
  onward _ _ step := step.onward
  stable _ _ _ _ := trivial

/-- The operation heeds the strike: it is tracked from everywhere. -/
abbrev Heeds (s : Strike) {α : Type} (m : Act α) : Prop :=
  Follows s (Step s.token) (fun _ => True) m

/-- Where nothing is going to happen by itself, what heeds every strike leaves it so. -/
theorem still_after {α : Type} {token : String} {m : Act α} {h : Host}
    (heeds : ∀ number, Heeds ⟨number, .wait, token, false⟩ m) (still : Still token h) :
    Still token (Act.after m h) := by
  -- A strike that is bound to no command of the run never takes effect.
  let s : Strike := ⟨(Act.after m h).commands.length, .wait, token, false⟩
  have shadows : Shadows s (h.timed [] []) h := .intro still ⟨.inl rfl, by simp⟩
  cases (heeds s.command).tracks _ h shadows trivial with
  | struck struck =>
    have reached := Nat.lt_of_lt_of_le struck.reached struck.commands.length_le
    exact absurd reached (Nat.lt_irrefl _)
  | alike _ e shadows' =>
    rw [Act.after_ok e]
    obtain ⟨still', -⟩ := shadows'
    exact still'
  | blocked _ e shadows' =>
    rw [Act.after_error e]
    obtain ⟨still', -⟩ := shadows'
    exact still'

section steady
variable {α : Type} {token : String}

theorem steady_modifyGet {g : Host → α × Host}
    (timed : ∀ strikes alarms h, g (h.timed strikes alarms) =
      ((g h).1, (g h).2.timed strikes alarms))
    (still : ∀ h, Still token h → Still token (g h).2) : Steady token (modifyGet g : Act α) := by
  refine ⟨fun strikes alarms h => ?_, still⟩
  simp only [Act.modifyGet_apply, timed]

theorem steady_modify {g : Host → Host}
    (timed : ∀ strikes alarms h, g (h.timed strikes alarms) = (g h).timed strikes alarms)
    (still : ∀ h, Still token h → Still token (g h)) : Steady token (modify g : Act Unit) := by
  refine ⟨fun strikes alarms h => ?_, still⟩
  simp only [Act.modify_apply, timed]

theorem steady_read {g : Host → α}
    (blind : ∀ strikes alarms h, g (h.timed strikes alarms) = g h) :
    Steady token (do return g (← get) : Act α) := by
  refine ⟨fun strikes alarms h => ?_, fun _ still => still⟩
  simp only [Act.bind_apply, Act.get_apply, Act.pure_apply, blind]

theorem steady_noteOf (severity : Severity) {text : Host → String}
    (blind : ∀ strikes alarms h, text (h.timed strikes alarms) = text h) :
    Steady token (do note severity (text (← get)) : Act Unit) := by
  refine ⟨fun strikes alarms h => ?_,
    fun h still => ⟨still.strikes, still.alarms, still.cues, still.idle⟩⟩
  simp only [Act.bind_apply, Act.get_apply, Act.note_apply, blind]
  rfl

theorem steady_arm (name : String) (r : Resource) : Steady token (arm name r) := by
  refine ⟨fun strikes alarms h => ?_, fun h still => ?_⟩
  · have raised : (h.timed strikes alarms).tokens name = h.tokens name := rfl
    unfold arm
    simp only [Act.bind_apply, Act.get_apply, raised]
    cases (h.tokens name).interrupted with
    | true => rfl
    | false => cases (h.tokens name).armed.isSome <;> rfl
  · cases raised : h.interrupted name with
    | true =>
      rw [Act.after_ok (arm_interrupted raised)]
      exact still
    | false =>
      obtain ⟨events, e⟩ := arm_idle (r := r) raised
      rw [Act.after_ok e]
      exact ⟨still.strikes, still.alarms, still.cues,
        (interrupted_updateToken (Token.interrupted_arm _ _)).trans still.idle⟩

theorem steady_disarm (name : String) : Steady token (disarm name) :=
  steady_modify (fun _ _ _ => rfl) fun _ still =>
    ⟨still.strikes, still.alarms, still.cues,
      (interrupted_updateToken (Token.interrupted_disarm _)).trans still.idle⟩

theorem steady_kill (child : Nat) : Steady token (kill child) :=
  steady_modifyGet (fun _ _ _ => rfl) fun _ still =>
    ⟨still.strikes, still.alarms, still.cues, still.idle⟩

end steady

section course
variable {s : Strike} {R : Host → Host → Prop} {I : Host → Prop} (course : Course s.token R I)
include course

theorem follows_note (severity : Severity) (text : String) : Follows s R I (note severity text) :=
  follows_steady course (within_note course.tolerant severity text)
    (steady_modify (fun _ _ _ => rfl) fun _ still =>
      ⟨still.strikes, still.alarms, still.cues, still.idle⟩)

theorem follows_noteAll (events : List Event) : Follows s R I (noteAll events) :=
  follows_steady course (within_noteAll course.tolerant events)
    (steady_modify (fun _ _ _ => rfl) fun _ still =>
      ⟨still.strikes, still.alarms, still.cues, still.idle⟩)

theorem follows_noteOf {α : Type} (severity : Severity) {text : Host → String} {m : Act α}
    (blind : ∀ strikes alarms h, text (h.timed strikes alarms) = text h) (rest : Follows s R I m) :
    Follows s R I (do
      note severity (text (← get))
      m) := by
  have noted : Follows s R I (do note severity (text (← get)) : Act Unit) :=
    follows_steady course (Act.within_bind Act.within_get fun _ =>
      within_note course.tolerant severity _) (steady_noteOf severity blind)
  have joined := follows_bind course noted fun _ => rest
  rwa [bind_assoc] at joined

theorem follows_read {α : Type} {g : Host → α}
    (blind : ∀ strikes alarms h, g (h.timed strikes alarms) = g h) :
    Follows s R I (do return g (← get) : Act α) :=
  follows_steady course (Act.within_map Act.within_get) (steady_read blind)

theorem follows_isInterrupted (name : String) : Follows s R I (isInterrupted name) :=
  follows_read course fun _ _ _ => rfl

/-- Being tracked along a course is passed on. -/
theorem compositional_follows : Compositional fun m => Follows s R I m where
  pure := follows_pure
  bind := follows_bind course
  isInterrupted := follows_isInterrupted course
  note := follows_note course
  noteAll := follows_noteAll course

end course

section tending
variable {s : Strike} {child : Nat}

theorem follows_callChild (c : Call) :
    Follows s (Tending s.token child) (Latest child) (callChild child c) :=
  follows_steady (course_tending s.token child) (within_callChild c)
    (steady_modify (fun _ _ _ => rfl) fun _ still =>
      ⟨still.strikes, still.alarms, still.cues, still.idle⟩)

/-- The strike bound to a moment in the life of the latest command. -/
theorem follows_reach (point : Point) :
    Follows s (Tending s.token child) (Latest child) (reach child point) := by
  refine ⟨within_reach (tolerant_tending s.token child) child point,
    fun cut free shadows ⟨n, number, latest⟩ => ?_⟩
  obtain @⟨free, strikes, alarms, still, pending⟩ := shadows
  have reached (h : Host) (own : (h.children child).command? = some n) :
      reach child point h = (modify (Host.strike n point) : Act Unit) h := by
    unfold reach
    simp only [Act.modify_apply, own]
  exact (tracks_strike ⟨still, pending⟩ latest).congr (reached _ number) (reached _ number)

theorem follows_awaitEnd : Follows s (Tending s.token child) (Latest child) (awaitEnd child) :=
  follows_blockUntil (course_tending s.token child) fun _ _ _ => rfl

theorem follows_wait (reap : Bool) :
    Follows s (Tending s.token child) (Latest child) (wait child reap) := by
  have course := course_tending s.token child
  have ended : Follows s (Tending s.token child) (Latest child) (do
      awaitEnd child
      return ((← get).children child).outcome?.getD .unknown) :=
    follows_bind course follows_awaitEnd fun _ => follows_read course fun _ _ _ => rfl
  refine follows_bind course (follows_callChild _) fun _ =>
    follows_bind course (follows_reach .wait) fun _ => ?_
  cases reap with
  | false => exact ended
  | true => exact follows_bind course (follows_reach .reap) fun _ => ended

theorem follows_disarm : Follows s (Tending s.token child) (Latest child) (disarm s.token) :=
  follows_steady (course_tending s.token child) within_disarm (steady_disarm s.token)

theorem follows_kill : Follows s (Tending s.token child) (Latest child) (kill child) :=
  follows_steady (course_tending s.token child)
    (within_kill (attentive_tending s.token child)) (steady_kill child)

theorem follows_arm :
    Follows s (Tending s.token child) (Latest child) (arm s.token (.process child)) :=
  follows_steady (course_tending s.token child) within_arm (steady_arm s.token _)

theorem follows_conclude :
    Follows s (Tending s.token child) (Latest child) (conclude s.token child) :=
  (compositional_follows (course_tending s.token child)).conclude follows_wait follows_disarm

theorem follows_abandon : Follows s (Tending s.token child) (Latest child) (abandon child) := by
  have course := course_tending s.token child
  have reaped : Follows s (Tending s.token child) (Latest child) (do let _ ← wait child true) :=
    follows_bind course (follows_wait true) fun _ => follows_pure _
  refine follows_bind course follows_kill fun fault => ?_
  cases fault with
  | none => exact reaped
  | some cause => exact follows_noteOf course .debug (fun _ _ _ => rfl) reaped

theorem follows_awaitEnding (ending : Ending) :
    Follows s (Tending s.token child) (Latest child) (awaitEnding child ending) :=
  (compositional_follows (course_tending s.token child)).awaitEnding ending follows_awaitEnd
    (follows_blockUntil (course_tending s.token child) fun _ _ _ => rfl)

theorem follows_readAll (q : Query) (output : Output) :
    Follows s (Tending s.token child) (Latest child) (readAll q child output) := by
  have rules := compositional_follows (course_tending s.token child)
  exact rules.readAll (rules.readAnswer
    (rules.readOutput (follows_callChild _) (follows_reach _) (follows_awaitEnding _))
    (rules.drainOutput (follows_callChild _) (follows_reach _) (follows_awaitEnding _)))
    follows_kill

/-- A child is looked after alike in both runs if that is true of what is done meanwhile and in the
end. -/
theorem follows_supervise {α β : Type} {meanwhile : Act β}
    {finish : Outcome → β → Act (Except BridgeError α)}
    (first : Follows s (Tending s.token child) (Latest child) meanwhile)
    (last : ∀ outcome result,
      Follows s (Tending s.token child) (Latest child) (finish outcome result)) :
    Follows s (Tending s.token child) (Latest child)
      (Bridge.supervise s.token child meanwhile finish) :=
  (compositional_follows (course_tending s.token child)).supervise follows_arm follows_abandon first
    follows_conclude last

end tending

theorem start_timed (argv : List String) (mode : Mode) (strikes : List Strike)
    (alarms : List Alarm) (h : Host) :
    (h.timed strikes alarms).start argv mode =
      ((h.start argv mode).1, (h.start argv mode).2.timed strikes alarms) := by
  cases argv with
  | nil => rfl
  | cons program arguments =>
    cases e : (h.replyTo (program :: arguments)).fate.spawnError? program with
    | some cause =>
      have e' : ((h.timed strikes alarms).replyTo (program :: arguments)).fate.spawnError?
        program = some cause := e
      rw [start_refused e, start_refused e']
      rfl
    | none =>
      unfold replyTo at e
      have e' : (((h.timed strikes alarms).backend ((h.timed strikes alarms).commands.map (·.argv))
        (program :: arguments)).fate.spawnError? program) = none := e
      simp only [start, e, e']
      cases mode <;> rfl

theorem length_commands_start (b : Bridge) (arguments : List String) (mode : Mode) (h : Host) :
    (h.start (b.argv arguments) mode).2.commands.length = h.commands.length + 1 := by
  unfold Bridge.argv
  cases e : (h.replyTo (b.executable :: arguments)).fate.spawnError? b.executable with
  | some cause =>
    rw [start_refused e]
    rfl
  | none =>
    obtain ⟨pid, stdout, eq⟩ := start_child e mode
    rw [eq]
    rfl

/-- Handing a command to the system, with the strike bound to that moment. -/
theorem tracks_spawn {s : Strike} (b : Bridge) (arguments : List String) (mode : Mode)
    {cut free : Host} (shadows : Shadows s cut free) :
    Tracks s (spawn (b.argv arguments) mode) cut free := by
  obtain @⟨free, strikes, alarms, still, pending⟩ := shadows
  have length := length_commands_start b arguments mode free
  obtain ⟨commands, children, childCount, stdout, started, -, -⟩ :=
    start_eq (b.argv arguments) mode free
  have still' : Still s.token (free.start (b.argv arguments) mode).2 := by
    rw [started]
    exact ⟨still.strikes, still.alarms, still.cues, still.idle⟩
  have shadows' : Shadows s ((free.start (b.argv arguments) mode).2.timed strikes alarms)
      (free.start (b.argv arguments) mode).2 :=
    ⟨still', pending.strikes, fun a mem =>
      have ⟨token, later, lt⟩ := pending.alarms a mem
      ⟨token, later, by omega⟩⟩
  have tracked : Tracks s (do
      modify (Host.strike free.commands.length .spawn)
      return (free.start (b.argv arguments) mode).1)
      ((free.start (b.argv arguments) mode).2.timed strikes alarms)
      (free.start (b.argv arguments) mode).2 :=
    (tracks_strike shadows' length.symm).bind (course_step s.token) (fun _ => Act.within_pure _)
      fun _ _ _ _ shadows => .alike rfl rfl shadows
  refine tracked.congr ?_ rfl
  simp only [spawn, Act.bind_apply, Act.get_apply, Act.modifyGet_apply, start_timed]
  rfl

/-- The strike bound to what is said about the latest command. -/
theorem follows_reachLatest {s : Strike} (point : Point) : Heeds s (reachLatest point) := by
  refine ⟨within_reachLatest (tolerant_step s.token) point, fun cut free shadows _ => ?_⟩
  obtain @⟨free, strikes, alarms, still, pending⟩ := shadows
  have same : (free.timed strikes alarms).commands = free.commands := rfl
  cases latest : free.commands with
  | nil =>
    have cut' := reachLatest_unissued point (same.trans latest)
    exact .alike cut' (reachLatest_unissued point latest) ⟨still, pending⟩
  | cons c earlier =>
    have struck : Tracks s (modify (Host.strike earlier.length point))
        (free.timed strikes alarms) free :=
      tracks_strike ⟨still, pending⟩ (by rw [latest, List.length_cons])
    have cut' := reachLatest_issued point (same.trans latest)
    exact struck.congr cut' (reachLatest_issued point latest)

/-- A command is issued alike in both runs if what is made of it is alike. -/
theorem follows_issue {α : Type} {s : Strike} {b : Bridge} {arguments : List String} {mode : Mode}
    {proceed : Except SpawnError (Nat × Output) → Act (Except BridgeError α)}
    (within : Act.Within (Commanding s.token) (b.issue s.token arguments mode proceed))
    (refused : ∀ cause, Heeds s (proceed (.error cause)))
    (started : ∀ child output, Follows s (Tending s.token child) (Latest child)
      (proceed (.ok (child, output)))) :
    Heeds s (b.issue s.token arguments mode proceed) := by
  refine ⟨within.step, fun cut free shadows _ => ?_⟩
  have rest : ∀ r, Act.Within (Step s.token) (proceed r) := by
    intro r
    cases r with
    | error cause => exact (refused cause).within
    | ok started' => exact (started started'.1 started'.2).within.commanding.step
  obtain @⟨free, strikes, alarms, still, pending⟩ := shadows
  obtain ⟨text, issued⟩ := issue_idle b s.token arguments mode proceed
  have noted : Shadows s ((free.note .debug text).timed strikes alarms) (free.note .debug text) :=
    ⟨⟨still.strikes, still.alarms, still.cues, still.idle⟩, ⟨pending.strikes, pending.alarms⟩⟩
  refine Tracks.congr ?_ (issued (free.timed strikes alarms) still.idle) (issued free still.idle)
  refine (tracks_spawn b arguments mode noted).bind (course_step s.token) rest
    fun r cut' free' e shadows => ?_
  have handed := spawned b arguments mode (free.note .debug text)
  rw [e] at handed
  cases handed with
  | @failed cause => exact (refused cause).tracks cut' _ shadows trivial
  | @started output _ commands _ number _ _ =>
    exact (started _ output).tracks cut' _ shadows ⟨_, number, by rw [commands]; rfl⟩

section commands
variable {s : Strike} (b : Bridge)

theorem follows_act (a : Action) : Heeds s (b.act s.token a) := by
  have rules := compositional_follows (course_step s.token)
  refine follows_issue (within_act b a)
    (fun cause => rules.map _ (rules.reportUnstarted _ _ _)) fun child output => ?_
  exact follows_supervise (follows_pure ()) fun outcome _ =>
    (compositional_follows (course_tending s.token child)).judge _ _

theorem follows_ask (q : Query) : Heeds s (b.ask s.token q) := by
  have rules := compositional_follows (course_step s.token)
  refine follows_issue (within_ask b q)
    (fun cause => rules.map _ (rules.reportUnstarted _ _ _)) fun child output => ?_
  exact follows_supervise (follows_readAll q output) fun outcome result =>
    (compositional_follows (course_tending s.token child)).answer _ _ _

end commands
end DebugBridge
