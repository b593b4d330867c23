import DebugBridge.Proofs.Bridge.Verdict
import DebugBridge.Proofs.Composition
import DebugBridge.Proofs.Host.Ownership
import DebugBridge.Tunnel.Negotiation

/-!
# Attempts on one port

A negotiation may be interrupted at any moment. What one port contributes to it is said here once
for each direction: the commands that were issued, whether the token was interrupted, and who owns
which socket.
-/

namespace DebugBridge.Tunnel

open Host

variable {b : Bridge} {token serial socket : String}

/-- The action was issued as this command, which exited with zero. -/
structure Registered (b : Bridge) (a : Action) (c : Command) (h : Host) : Prop where
  argv : c.argv = b.argv a.arguments
  settled : Settled c h
  succeeded : outcomeOf? c h = some (.code 0)

theorem Registered.onward {a : Action} {c : Command} {h h' : Host} (registered : Registered b a c h)
    (onward : Onward token h h') : Registered b a c h' :=
  ⟨registered.argv, registered.settled.onward onward,
    (outcomeOf?_onward onward registered.settled).trans registered.succeeded⟩

/-- A port was registered and unregistered again, by two commands. -/
structure Undone (b : Bridge) (serial socket : String) (port : Nat) (c r : Command) (h h' : Host) :
    Prop where
  commands : h'.commands = r :: c :: h.commands
  registration : c.argv = b.argv (Action.reverse serial socket port).arguments
  removal : r.argv = b.argv (Action.reverseRemove serial socket).arguments
  tidy : Tidy h h'

inductive Tried (b : Bridge) (token serial socket : String) (range : PortRange) (port : Nat)
    (rest : List Nat) (h : Host) :
    EStateM.Result Halt Host (Except TunnelError (Option Passage)) → Prop
  /-- The token was interrupted before. -/
  | refused : h.interrupted token = true →
      Tried b token serial socket range port rest h (.ok (.error .interrupted) h)
  /-- The interrupt came too early for anything but the registration. -/
  | interrupted {c : Command} {h' : Host} : h'.commands = c :: h.commands →
      h'.interrupted token = true → Tidy h h' →
      Tried b token serial socket range port rest h (.ok (.error .interrupted) h')
  | givenUp {c : Command} {h' : Host} : h'.commands = c :: h.commands → Settled c h' →
      outcomeOf? c h' ≠ some (.code 0) → Tidy h h' →
      Tried b token serial socket range port rest h (.ok (.ok none) h')
  | opened {c : Command} {h' : Host} {listener : Nat} : h'.commands = c :: h.commands →
      Registered b (.reverse serial socket port) c h' →
      (Coherent h → Coherent h' ∧ Owned listener h') → BoundFor port listener h' →
      (h.Unstruck .listen → h'.interrupted token = false) →
      Tried b token serial socket range port rest h
        (.ok (.ok (some (.reverse port listener))) h')
  /-- The interrupt came while the registration was removed. -/
  | stopped {c r : Command} {h' : Host} : Undone b serial socket port c r h h' →
      h'.interrupted token = true →
      Tried b token serial socket range port rest h (.ok (.error .interrupted) h')
  /-- The next port is tried. -/
  | again {c r : Command} {h' : Host} : Undone b serial socket port c r h h' →
      Tried b token serial socket range port rest h
        (openReverse b token serial socket range rest h')
  | halted {halt : Halt} {h' : Host} :
      Tried b token serial socket range port rest h (.error halt h')

/-- An activity that returns and only says something, whoever interrupts it. -/
def Says (m : Act Unit) : Prop := ∀ h, ∃ h', m h = .ok () h' ∧ Quiet h h'

theorem says_note (severity : Severity) (text : String) : Says (note severity text) :=
  fun h => ⟨_, rfl, quiet_note severity text h⟩

theorem says_remark (point : Point) (severity : Severity) (text : String) :
    Says (remark point severity text) := by
  intro h
  have struck := within_reachLatest (tolerant_tending "" 0) point h
  exact ⟨_, rfl, (quiet_of_tended struck).trans (quiet_note severity text _)⟩

theorem says_noteUndoFailure (direction : Direction) (e : BridgeError) :
    Says (noteUndoFailure direction e) := by
  unfold noteUndoFailure
  dsimp only
  split
  · exact says_note _ _
  · exact says_remark _ _ _

theorem says_noteListenFailure (range : PortRange) (port : Nat) (e : NetError) :
    Says (noteListenFailure range port e) := by
  unfold noteListenFailure
  split
  · exact says_remark _ _ _
  · split <;> exact says_remark _ _ _

/-- After the attempt to remove a registration: it was removed, or the token is interrupted. -/
def Unregistered (b : Bridge) (token serial socket : String) (port : Nat) (c : Command)
    (h h' : Host) : Prop :=
  (∃ r, Undone b serial socket port c r h h') ∨
    h'.commands = c :: h.commands ∧ h'.interrupted token = true ∧ Tidy h h'

theorem Undone.quiet {port : Nat} {c r : Command} {h h₁ h₂ : Host}
    (undone : Undone b serial socket port c r h h₁) (quiet : Quiet h₁ h₂) :
    Undone b serial socket port c r h h₂ :=
  ⟨quiet.commands.trans undone.commands, undone.registration, undone.removal,
    undone.tidy.trans quiet.toUndisturbed.tidy⟩

theorem Unregistered.quiet {port : Nat} {c : Command} {h h₁ h₂ : Host}
    (unregistered : Unregistered b token serial socket port c h h₁) (quiet : Quiet h₁ h₂) :
    Unregistered b token serial socket port c h h₂ := by
  obtain ⟨r, undone⟩ | ⟨commands, raised, tidy⟩ := unregistered
  · exact .inl ⟨r, undone.quiet quiet⟩
  · exact .inr ⟨quiet.commands.trans commands, quiet.flags token raised,
      tidy.trans quiet.toUndisturbed.tidy⟩

theorem unregistered_of_act {port : Nat} {c : Command} {h h₁ h₂ : Host}
    {result : Except BridgeError Unit} (commands : h₁.commands = c :: h.commands)
    (registration : c.argv = b.argv (Action.reverse serial socket port).arguments)
    (tidy : Tidy h h₁) (e : b.act token (.reverseRemove serial socket) h₁ = .ok result h₂) :
    Unregistered b token serial socket port c h h₂ := by
  have same : Undisturbed h₁ h₂ := undisturbed_of_commanding ((within_act b _).ok e)
  have undone {r : Command} (issued : Issued b token (Action.reverseRemove serial socket).arguments
      .run r h₁ h₂) : Undone b serial socket port c r h h₂ :=
    ⟨issued.commands.trans (congrArg _ commands), registration, issued.argv, tidy.trans same.tidy⟩
  have ended := acted b token (.reverseRemove serial socket) h₁
  rw [e] at ended
  cases ended with
  | refused raised => exact .inr ⟨commands, raised, tidy⟩
  | succeeded issued => exact .inl ⟨_, undone issued⟩
  | cancelled issued => exact .inl ⟨_, undone issued⟩
  | failed issued => exact .inl ⟨_, undone issued⟩

/-- What follows the attempt to remove a registration: the next port, or the end. -/
theorem tried_of_unregistered (range : PortRange) {port : Nat} (rest : List Nat) (cause : NetError)
    {c : Command} {h h' : Host} (unregistered : Unregistered b token serial socket port c h h') :
    Tried b token serial socket range port rest h ((do
      if ← isInterrupted token then return .error .interrupted
      noteListenFailure range port cause
      openReverse b token serial socket range rest :
        Act (Except TunnelError (Option Passage))) h') := by
  rw [Act.bind_apply, Act.isInterrupted_apply]
  cases raised : h'.interrupted token with
  | true =>
    obtain ⟨r, undone⟩ | ⟨commands, -, tidy⟩ := unregistered
    · exact .stopped undone raised
    · exact .interrupted commands raised tidy
  | false =>
    obtain ⟨r, undone⟩ | ⟨-, raised', -⟩ := unregistered
    · obtain ⟨h'', noted, quiet⟩ := says_noteListenFailure range port cause h'
      simp only [Bool.false_eq_true, if_false, Act.bind_apply, noted]
      exact .again (undone.quiet quiet)
    · simp [raised] at raised'

theorem tried_of_taken (range : PortRange) {port : Nat} (rest : List Nat) (cause : NetError)
    {c : Command} {h h₁ : Host} (commands : h₁.commands = c :: h.commands)
    (registration : c.argv = b.argv (Action.reverse serial socket port).arguments)
    (tidy : Tidy h h₁) :
    Tried b token serial socket range port rest h ((do
      if let .error e ← b.act token (.reverseRemove serial socket) then
        noteUndoFailure .reverse e
      if ← isInterrupted token then return .error .interrupted
      noteListenFailure range port cause
      openReverse b token serial socket range rest :
        Act (Except TunnelError (Option Passage))) h₁) := by
  rw [Act.bind_apply]
  cases e : b.act token (.reverseRemove serial socket) h₁ with
  | error halt h₂ => exact .halted
  | ok result h₂ =>
    have unregistered := unregistered_of_act commands registration tidy e
    cases result with
    | ok => exact tried_of_unregistered range rest cause unregistered
    | error cause' =>
      obtain ⟨h₃, noted, quiet⟩ := says_noteUndoFailure .reverse cause' h₂
      simp only
      rw [Act.bind_apply, noted]
      exact tried_of_unregistered range rest cause (unregistered.quiet quiet)

/-- Trying a port in reverse direction goes one of these ways, whatever the commands do and whenever
the token is interrupted. -/
theorem tried (b : Bridge) (token serial socket : String) (range : PortRange) (port : Nat)
    (rest : List Nat) (h : Host) :
    Tried b token serial socket range port rest h
      (openReverse b token serial socket range (port :: rest) h) := by
  have ended := acted b token (.reverse serial socket port) h
  unfold openReverse
  rw [Act.bind_apply]
  generalize registering : b.act token (.reverse serial socket port) h = result at ended
  have same {r : Except BridgeError Unit} {h₁ : Host} (returned : result = .ok r h₁) :
      Undisturbed h h₁ :=
    undisturbed_of_commanding ((within_act b _).ok (registering.trans returned))
  cases ended with
  | refused raised => exact .refused raised
  | cancelled issued settled raised =>
    exact .interrupted issued.commands raised (same rfl).tidy
  | @failed c h₁ e issued settled outcome regular =>
    obtain ⟨h₂, said, quiet⟩ :=
      says_remark .failure .warn s!"could not set up reverse tunnel: {e.message}" h₁
    have onward := quiet.onward token
    simp only [regular, Bool.false_eq_true, if_false, Act.bind_apply, said]
    refine .givenUp (quiet.commands.trans issued.commands) (settled.onward onward) ?_
      ((same rfl).trans quiet.toUndisturbed).tidy
    rwa [outcomeOf?_onward onward settled]
  | halted issued running => exact .halted
  | @succeeded c h₁ issued settled outcome =>
    have same := same rfl
    have listening := listened token port h₁
    simp only
    rw [Act.bind_apply]
    generalize Net.listen token port h₁ = result at listening
    cases listening with
    | denied =>
      have commands : (h₁.opened Net.listenRequests).commands = h₁.commands := by
        obtain same | more := opened_cases Net.listenRequests h₁
        · rw [same]
          rfl
        · rw [more]
          rfl
      exact tried_of_taken range rest _ (commands.trans issued.commands) issued.argv
        (same.tidy.trans (tidy_opened _ _))
    | refused _ more _ silent =>
      exact tried_of_taken range rest _ (more.commands.trans issued.commands) issued.argv
        (same.tidy.trans (more.tidy silent))
    | failed _ _ more _ silent =>
      exact tried_of_taken range rest _ (more.commands.trans issued.commands) issued.argv
        (same.tidy.trans (more.tidy silent))
    | @opened h₂ granted idle free more disarmed bound unraised =>
      have registered : Registered b (.reverse serial socket port) c h₁ :=
        ⟨issued.argv, settled, outcome⟩
      have noted (severity : Severity) (text : String) : Quiet h₂ (h₂.note severity text) :=
        quiet_note severity text h₂
      refine .opened (more.commands.trans issued.commands)
        ((registered.onward more.onward).onward ((noted _ _).onward token)) (fun before => ?_)
        ((boundFor_of_granted free more bound).undisturbed (noted _ _).toUndisturbed)
        fun unstruck => unraised (unstruck.sublist same.strikes)
      have coherent : Coherent h₁ := before.undisturbed same
      have owned : Owned h₁.socketCount h₂ :=
        owned_of_listened coherent free more disarmed bound
      exact ⟨(coherent.oneMore more).undisturbed (noted _ _).toUndisturbed,
        owned.undisturbed (noted _ _).toUndisturbed⟩

theorem within_remark (point : Point) (severity : Severity) (text : String) :
    Act.Within (Step token) (remark point severity text) :=
  (compositional_within (tolerant_step token)).remark
    (within_reachLatest (tolerant_step token)) point severity text

theorem within_openReverse (range : PortRange) (ports : List Nat) :
    Act.Within (Step token) (openReverse b token serial socket range ports) :=
  (compositional_within (tolerant_step token)).openReverse
    (within_reachLatest (tolerant_step token)) range ports (fun _ => (within_act b _).step)
    (within_act b _).step within_listen

theorem within_openForward (range : PortRange) (ports : List Nat) :
    Act.Within (Commanding token) (openForward b token serial socket range ports) :=
  (compositional_within (tolerant_commanding token)).openForward
    (within_reachLatest (tolerant_commanding token)) range ports fun _ => within_act b _

/-- The action was the last command of a run: the token was interrupted only after it was issued,
and it exited with zero all the same. -/
def Overtaken (b : Bridge) (token : String) (a : Action) (h h' : Host) : Prop :=
  ∃ h₁ h₂ c, Relation.ReflTransGen (Step token) h h₁ ∧
    b.act token a h₁ = .ok (.ok ()) h₂ ∧ Issued b token a.arguments a.mode c h₁ h₂ ∧
    outcomeOf? c h₂ = some (.code 0) ∧ h₂.interrupted token = true ∧ SameWorld h₂ h'

theorem Overtaken.after {a : Action} {h h₁ h' : Host} (overtaken : Overtaken b token a h₁ h')
    (before : Relation.ReflTransGen (Step token) h h₁) : Overtaken b token a h h' := by
  obtain ⟨h₂, h₃, c, course, rest⟩ := overtaken
  exact ⟨h₂, h₃, c, before.trans course, rest⟩

inductive TriedForward (b : Bridge) (token serial socket : String) (range : PortRange) (port : Nat)
    (rest : List Nat) (h : Host) : EStateM.Result Halt Host (Except TunnelError Passage) → Prop
  /-- The token was interrupted before. -/
  | refused : h.interrupted token = true →
      TriedForward b token serial socket range port rest h (.ok (.error .interrupted) h)
  | interrupted {c : Command} {h' : Host} :
      Issued b token (Action.forward serial port socket).arguments .run c h h' →
      h'.interrupted token = true →
      TriedForward b token serial socket range port rest h (.ok (.error .interrupted) h')
  | opened {c : Command} {h' : Host} :
      Issued b token (Action.forward serial port socket).arguments .run c h h' →
      Registered b (.forward serial port socket) c h' →
      (h'.interrupted token = true → Overtaken b token (.forward serial port socket) h h') →
      TriedForward b token serial socket range port rest h (.ok (.ok (.forward port)) h')
  /-- The next port is tried, if there is one. An interrupt came at most while that was announced.
  -/
  | again {c : Command} {h' : Host} :
      Issued b token (Action.forward serial port socket).arguments .run c h h' →
      Relation.ReflTransGen (Step token) h h' →
      port < range.last ∨ h'.interrupted token = false →
      TriedForward b token serial socket range port rest h
        (openForward b token serial socket range rest h')
  | halted {halt : Halt} {h' : Host} :
      TriedForward b token serial socket range port rest h (.error halt h')

/-- Trying a port in forward direction goes one of these ways, whatever the command does and
whenever the token is interrupted. -/
theorem triedForward (b : Bridge) (token serial socket : String) (range : PortRange) (port : Nat)
    (rest : List Nat) (h : Host) :
    TriedForward b token serial socket range port rest h
      (openForward b token serial socket range (port :: rest) h) := by
  have ended := acted b token (.forward serial port socket) h
  have course := ((within_act b (.forward serial port socket)).step : Act.Within (Step token) _) h
  unfold openForward
  rw [Act.bind_apply]
  generalize run : b.act token (.forward serial port socket) h = result at ended
  cases ended with
  | refused raised => exact .refused raised
  | @succeeded c h₁ issued settled outcome =>
    have registered : Registered b (.forward serial port socket) c h₁ :=
      ⟨issued.argv, settled, outcome⟩
    have noted (text : String) : SameWorld h₁ (h₁.note .info text) := by constructor <;> rfl
    exact .opened (issued.write (noted _).commands)
      (registered.onward ((noted _).quiet.onward token))
      fun raised => ⟨h, h₁, c, .refl, run, issued, outcome, raised, noted _⟩
  | cancelled issued settled raised => exact .interrupted issued raised
  | @failed c h₁ e issued settled outcome regular =>
    rw [Act.after_ok run] at course
    simp only [regular, Bool.false_eq_true, if_false]
    rw [Act.bind_apply, Act.isInterrupted_apply]
    cases raised : h₁.interrupted token with
    | true =>
      simp only [if_true]
      exact .interrupted issued raised
    | false =>
      simp only [Bool.false_eq_true, if_false]
      split
      · next left =>
        obtain ⟨h₂, said, quiet⟩ := says_remark .retry .warn
          s!"could not forward port {port} ({e.message}), retrying on {port + 1}" h₁
        simp only [Act.bind_apply, said]
        exact .again (issued.write quiet.commands) (course.trans ((within_remark _ _ _).ok said))
          (.inl left)
      · exact .again issued course (.inr raised)
  | halted issued running => exact .halted

end DebugBridge.Tunnel
