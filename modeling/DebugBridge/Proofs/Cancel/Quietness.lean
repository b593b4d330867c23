import DebugBridge.Proofs.Bridge.Quietness
import DebugBridge.Proofs.Tunnel.Settlement

/-!
# Cancellation is quiet

Where every command can be started and every kill works, an operation that ends as cancelled has
written no warning and no error since the interrupt. What it warned about came before: a command
that fails without being cancelled leaves the token idle, and a port that is taken is reported only
after a look at the token. What an operation reports last, when its token may be interrupted
already, it reports only with another result. An interrupt that comes after the look and before the
words is not noticed in time.
-/

namespace DebugBridge

open Host

section wireless
variable (b : Bridge) (token : String)

theorem sleep_hushed (interval : Nat) : Act.Hushed token (!·) (sleep token interval) :=
  Act.hushed_of_within ((discreet_hushes token).sleep token interval) fun _ _ _ slept cut => by
    rw [sleep_awake slept]
    exact cut

/-- Every poll is cancelled with its sleep or with its question. -/
theorem awaitPort_hushed (serial : String) (port interval left : Nat) :
    Act.Hushed token (failedAs WirelessError.isInterrupted)
      (Wireless.awaitPort b token serial port interval left) := by
  induction left with
  | zero => exact Act.hushed_pure rfl
  | succ left ih =>
    unfold Wireless.awaitPort
    refine (sleep_hushed token interval).bind (fun awake up => ?_) fun awake up => ?_
    · obtain rfl : awake = false := by simpa using up
      exact Act.hushed_pure rfl
    · obtain rfl : awake = true := by simpa using up
      refine (property_hushed b token serial Wireless.portProperty).bind (fun x up => ?_)
        fun x up => ?_
      · cases x with
        | ok value => cases up
        | error e =>
          have up : e.isInterrupted = true := up
          simp only [up, if_true]
          exact Act.hushed_pure rfl
      · have noted (text : String) : Act.Hushed token (failedAs WirelessError.isInterrupted) (do
            note .debug text
            Wireless.awaitPort b token serial port interval left) :=
          (Act.hushed_note text ⟨by simp, by simp⟩).next fun _ => ih
        cases x with
        | ok value =>
          dsimp only
          split
          · exact Act.hushed_pure rfl
          · exact noted _
        | error e =>
          have up : e.isInterrupted = false := up
          simp only [up, Bool.false_eq_true, if_false]
          exact noted _

theorem ensurePort_hushed (serial : String) (port interval : Nat) :
    Act.Hushed token (failedAs WirelessError.isInterrupted)
      (Wireless.ensurePort b token serial port interval) := by
  have noted (text : String) : Act.Hushed token (fun _ => false) (note .info text) :=
    Act.hushed_note text ⟨by simp, by simp⟩
  refine (property_hushed b token serial Wireless.portProperty).pass (fun _ => rfl)
    (fun _ => rfl) fun current => ?_
  dsimp only
  split
  · exact (noted _).next fun _ => Act.hushed_pure rfl
  · exact (noted _).next fun _ => (act_hushed b token _).pass (fun _ => rfl)
      (fun _ => rfl) fun _ => awaitPort_hushed b token serial port interval _

theorem enable_ceases (serial : String) (port interval : Nat) :
    Act.Ceases token (failedAs WirelessError.isInterrupted)
      (Wireless.enable b token serial port interval) :=
  (ensurePort_hushed b token serial port interval).pass_ceases (fun _ => rfl) (fun _ => rfl)
    fun _ => (address_ceases b token serial).pass (fun _ => rfl) (fun _ => rfl) fun found => by
      cases found <;> exact Act.never_pure rfl

/-- A failure to connect is warned about unless it is a cancellation. -/
theorem join_ceases (address : String) :
    Act.Ceases token (failedAs WirelessError.isInterrupted)
      (Wireless.connect b token address) := by
  unfold Wireless.connect
  extract_lets target connecting
  have connected (u : Unit) :
      Act.Ceases token (failedAs WirelessError.isInterrupted) (connecting u) := by
    refine (connect_hushed b token target).ceases.bind (fun x up => ?_) fun x up => ?_
    · cases x with
      | ok => cases up
      | error e =>
        have up : e.isInterrupted = true := up
        simp only [up, Bool.not_true, Bool.false_eq_true, if_false]
        exact Act.hushed_pure rfl
    · cases x with
      | ok => exact Act.never_note _ _ rfl
      | error e =>
        have up : e.isInterrupted = false := up
        simp only [up, Bool.not_false, if_true]
        exact Act.never_note _ _ up
  refine (act_hushed b token _).bind_ceases (fun x up => ?_) fun x up => ?_
  · cases x with
    | ok => cases up
    | error e =>
      have up : e.isInterrupted = true := up
      simp only [up, if_true]
      exact Act.hushed_pure rfl
  · cases x with
    | ok => exact connected ()
    | error e =>
      have up : e.isInterrupted = false := up
      simp only [up, Bool.false_eq_true, if_false]
      exact (Act.hushed_note _ ⟨by simp, by simp⟩).next_ceases fun _ => connected ()

end wireless

section tunnels
variable {b : Bridge} {token serial socket : String} {range : PortRange}

/-- No remark interrupts the token. -/
theorem reachLatest_hushes {point : Point} (remark : point.isRemark = true) {h h' : Host} {u : Unit}
    (prompt : Prompt token h) (ran : reachLatest point h = .ok u h') :
    Prompt token h' ∧ Hush token h h' ∧ h'.interrupted token = h.interrupted token := by
  obtain ⟨prompt', hush⟩ :=
    hushes_of_run (((discreet_hushes token).reachLatest point).ok ran) prompt
  refine ⟨prompt', hush, ?_⟩
  cases latest : h.commands with
  | nil =>
    cases ran.symm.trans (reachLatest_unissued point latest)
    rfl
  | cons c earlier =>
    cases ran.symm.trans (reachLatest_issued point latest)
    rw [interrupted_strike]
    cases idle : h.interrupted token with
    | true => rfl
    | false => exact prompt.struckAt idle remark _

theorem remark_prompt {point : Point} (remark : point.isRemark = true) {severity : Severity}
    {text : String} {h h' : Host} {u : Unit} (prompt : Prompt token h)
    (ran : Tunnel.remark point severity text h = .ok u h') : Prompt token h' := by
  obtain ⟨_, h₁, reached, ran⟩ := Act.ok_of_bind ran
  cases ran
  exact (reachLatest_hushes remark prompt reached).1.write _

/-- What is said while the token is idle is said before any interrupt. -/
theorem remark_hushes {point : Point} (remark : point.isRemark = true) {severity : Severity}
    {text : String} {h h' : Host} {u : Unit} (prompt : Prompt token h)
    (idle : h.interrupted token = false)
    (ran : Tunnel.remark point severity text h = .ok u h') :
    Prompt token h' ∧ Hush token h h' ∧ h'.interrupted token = false := by
  obtain ⟨_, h₁, reached, ran⟩ := Act.ok_of_bind ran
  obtain ⟨prompt₁, hush₁, flag⟩ := reachLatest_hushes remark prompt reached
  have idle₁ : h₁.interrupted token = false := flag.trans idle
  cases ran
  exact ⟨prompt₁.write _, hush₁.trans (hush_noteIdle idle₁), idle₁⟩

/-- A port that could not be forwarded is warned about only after a look at the token. -/
theorem openForward_ceases (ports : List Nat) :
    Act.Ceases token (failedAs TunnelError.isInterrupted)
      (Tunnel.openForward b token serial socket range ports) := by
  induction ports with
  | nil =>
    refine Act.Never.ceases ?_
    unfold Tunnel.openForward
    split <;> exact Act.never_note _ _ rfl
  | cons port rest ih =>
    intro h x h' prompt ran
    unfold Tunnel.openForward at ran
    obtain ⟨registered, h₁, acted, ran⟩ := Act.ok_of_bind ran
    obtain ⟨prompt₁, hush₁, flag⟩ := act_hushes prompt acted
    cases registered with
    | ok =>
      cases ran
      exact ⟨prompt₁.write _, fun cancelled => absurd cancelled Bool.false_ne_true⟩
    | error e =>
      have flag := flag e rfl
      cases up : e.isInterrupted with
      | true =>
        simp only [up, if_true] at ran
        cases ran
        exact ⟨prompt₁, fun _ => ⟨flag.trans up, hush₁⟩⟩
      | false =>
        have idle : h₁.interrupted token = false := flag.trans up
        simp only [up, Bool.false_eq_true, if_false, Act.bind_apply, Act.isInterrupted_apply,
          idle] at ran
        obtain ⟨h₂, prompt₂, hush₂, ran⟩ : ∃ h₂, Prompt token h₂ ∧ Hush token h₁ h₂ ∧
            Tunnel.openForward b token serial socket range rest h₂ = .ok x h' := by
          split at ran
          · obtain ⟨_, h₂, warned, ran⟩ := Act.ok_of_bind ran
            obtain ⟨prompt₂, hush₂, -⟩ := remark_hushes rfl prompt₁ idle warned
            exact ⟨h₂, prompt₂, hush₂, ran⟩
          · exact ⟨_, prompt₁, Hush.refl token _, ran⟩
        obtain ⟨stays, ceased⟩ := ih h₂ x h' prompt₂ ran
        exact ⟨stays, fun up => (ceased up).after (hush₁.trans hush₂)⟩

/-- A registration that is not taken back is warned about unless its removal was cancelled. -/
theorem noteUndoFailure_hushes {direction : Direction} {e : BridgeError} {h h' : Host} {u : Unit}
    (prompt : Prompt token h) (flag : h.interrupted token = e.isInterrupted)
    (ran : Tunnel.noteUndoFailure direction e h = .ok u h') :
    Prompt token h' ∧ Hush token h h' := by
  unfold Tunnel.noteUndoFailure at ran
  cases up : e.isInterrupted with
  | true =>
    simp only [up, if_true] at ran
    cases ran
    exact ⟨prompt.write _, hush_note _ ⟨by simp, by simp⟩ h⟩
  | false =>
    simp only [up, Bool.false_eq_true, if_false] at ran
    obtain ⟨prompt', hush, -⟩ := remark_hushes rfl prompt (flag.trans up) ran
    exact ⟨prompt', hush⟩

theorem noteListenFailure_hushes {port : Nat} {e : NetError} {h h' : Host} {u : Unit}
    (prompt : Prompt token h) (idle : h.interrupted token = false)
    (ran : Tunnel.noteListenFailure range port e h = .ok u h') :
    Prompt token h' ∧ Hush token h h' ∧ h'.interrupted token = false := by
  unfold Tunnel.noteListenFailure at ran
  split at ran
  · exact remark_hushes rfl prompt idle ran
  · split at ran <;> exact remark_hushes rfl prompt idle ran

/-- How a removal went may be reported at any time. -/
theorem noteClosed_prompt {direction : Direction} {port : Nat} {result : Except BridgeError Unit}
    {h h' : Host} {u : Unit} (prompt : Prompt token h)
    (ran : Tunnel.noteClosed direction port result h = .ok u h') : Prompt token h' := by
  cases result with
  | ok =>
    cases ran
    exact prompt.write _
  | error e =>
    unfold Tunnel.noteClosed Tunnel.noteUndoFailure at ran
    dsimp only at ran
    split at ran
    · cases ran
      exact prompt.write _
    · exact remark_prompt rfl prompt ran

/-- How the reverse direction is left: it is cancelled, it has a passage, or it is given up while
the token is idle. -/
inductive ReverseLeft (token : String) (h : Host) :
    Except TunnelError (Option Passage) → Host → Prop
  | cancelled {h' : Host} : Ceased token h h' → ReverseLeft token h (.error .interrupted) h'
  | opened {passage : Passage} {h' : Host} : ReverseLeft token h (.ok (some passage)) h'
  | givenUp {h' : Host} : h'.interrupted token = false → Hush token h h' →
      ReverseLeft token h (.ok none) h'

theorem ReverseLeft.after {h h₁ h' : Host} {x : Except TunnelError (Option Passage)}
    (left : ReverseLeft token h₁ x h') (hush : Hush token h h₁) : ReverseLeft token h x h' := by
  cases left with
  | cancelled ceased => exact .cancelled (ceased.after hush)
  | opened => exact .opened
  | givenUp idle hush' => exact .givenUp idle (hush.trans hush')

/-- After a port could not be listened on, the next one is tried only through an idle token. -/
theorem retried_hushes {removal : Action} {port : Nat} {cause : NetError} {α : Type}
    {next : Act (Except TunnelError α)} {x : Except TunnelError α} {h h' : Host}
    (prompt : Prompt token h)
    (ran : (do
      if let .error e ← b.act token removal then Tunnel.noteUndoFailure .reverse e
      if ← isInterrupted token then return .error .interrupted
      Tunnel.noteListenFailure range port cause
      next : Act (Except TunnelError α)) h = .ok x h') :
    (x = .error .interrupted ∧ Prompt token h' ∧ Ceased token h h') ∨
      ∃ h₁, h₁.interrupted token = false ∧ Prompt token h₁ ∧ Hush token h h₁ ∧
        next h₁ = .ok x h' := by
  -- What comes after the registration was taken back, or could not be.
  have looked {h₁ : Host} (prompt₁ : Prompt token h₁) (hush₁ : Hush token h h₁)
      (ran : (do
        if ← isInterrupted token then return .error .interrupted
        Tunnel.noteListenFailure range port cause
        next : Act (Except TunnelError α)) h₁ = .ok x h') :
      (x = .error .interrupted ∧ Prompt token h' ∧ Ceased token h h') ∨
        ∃ h₁, h₁.interrupted token = false ∧ Prompt token h₁ ∧ Hush token h h₁ ∧
          next h₁ = .ok x h' := by
    rw [Act.bind_apply, Act.isInterrupted_apply] at ran
    cases idle : h₁.interrupted token with
    | true =>
      simp only [idle, if_true] at ran
      cases ran
      exact .inl ⟨rfl, prompt₁, idle, hush₁⟩
    | false =>
      simp only [idle, Bool.false_eq_true, if_false] at ran
      obtain ⟨_, h₂, noted, ran⟩ := Act.ok_of_bind ran
      obtain ⟨prompt₂, hush₂, idle₂⟩ := noteListenFailure_hushes prompt₁ idle noted
      exact .inr ⟨h₂, idle₂, prompt₂, hush₁.trans hush₂, ran⟩
  obtain ⟨removed, h₁, undone, ran⟩ := Act.ok_of_bind ran
  obtain ⟨prompt₁, hush₁, flag⟩ := act_hushes prompt undone
  cases removed with
  | ok => exact looked prompt₁ hush₁ ran
  | error e =>
    obtain ⟨_, h₂, noted, ran⟩ := Act.ok_of_bind ran
    obtain ⟨prompt₂, hush₂⟩ := noteUndoFailure_hushes prompt₁ (flag e rfl) noted
    exact looked prompt₂ (hush₁.trans hush₂) ran

theorem openReverse_left (ports : List Nat) : ∀ {h h' : Host}
    {x : Except TunnelError (Option Passage)}, Prompt token h →
    (ports = [] → h.interrupted token = false) →
    Tunnel.openReverse b token serial socket range ports h = .ok x h' →
    Prompt token h' ∧ ReverseLeft token h x h' := by
  induction ports with
  | nil =>
    intro h h' x prompt idle ran
    cases ran
    exact ⟨prompt, .givenUp (idle rfl) (Hush.refl token h)⟩
  | cons port rest ih =>
    intro h h' x prompt _ ran
    unfold Tunnel.openReverse at ran
    obtain ⟨registered, h₁, acted, ran⟩ := Act.ok_of_bind ran
    obtain ⟨prompt₁, hush₁, flag⟩ := act_hushes prompt acted
    cases registered with
    | error e =>
      have flag := flag e rfl
      cases up : e.isInterrupted with
      | true =>
        simp only [up, if_true] at ran
        cases ran
        exact ⟨prompt₁, .cancelled ⟨flag.trans up, hush₁⟩⟩
      | false =>
        simp only [up, Bool.false_eq_true, if_false] at ran
        obtain ⟨_, h₂, warned, ran⟩ := Act.ok_of_bind ran
        obtain ⟨prompt₂, hush₂, idle₂⟩ := remark_hushes rfl prompt₁ (flag.trans up) warned
        cases ran
        exact ⟨prompt₂, .givenUp idle₂ (hush₁.trans hush₂)⟩
    | ok =>
      obtain ⟨listened, h₂, listening, ran⟩ := Act.ok_of_bind ran
      have hushes₂ := hushes_of_run (((discreet_hushes token).listen port).ok listening)
      obtain ⟨prompt₂, hush₂⟩ := hushes₂ prompt₁
      cases listened with
      | ok listener =>
        cases ran
        exact ⟨prompt₂.write _, .opened⟩
      | error cause =>
        have hush := hush₁.trans hush₂
        obtain ⟨rfl, stays, ceased⟩ | ⟨h₃, idle, prompt₃, hush₃, ran⟩ :=
          retried_hushes prompt₂ ran
        · exact ⟨stays, .cancelled (ceased.after hush)⟩
        · obtain ⟨stays, left⟩ := ih prompt₃ (fun _ => idle) ran
          exact ⟨stays, left.after (hush.trans hush₃)⟩

/-- A fallback is warned about only after the reverse direction was given up. -/
theorem negotiate_ceases (forceForward : Bool) :
    Act.Ceases token (failedAs TunnelError.isInterrupted)
      (Tunnel.negotiate b token serial socket range forceForward) := by
  unfold Tunnel.negotiate
  split
  · exact openForward_ceases range.ports
  · intro h x h' prompt ran
    obtain ⟨reversed, h₁, opened, ran⟩ := Act.ok_of_bind ran
    obtain ⟨prompt₁, left⟩ := openReverse_left range.ports prompt
      (fun empty => absurd empty (Tunnel.ports_ne_nil range)) opened
    cases left with
    | cancelled ceased =>
      cases ran
      exact ⟨prompt₁, fun _ => ceased⟩
    | opened =>
      cases ran
      exact ⟨prompt₁, fun cancelled => absurd cancelled Bool.false_ne_true⟩
    | givenUp idle hush =>
      obtain ⟨_, h₂, warned, ran⟩ := Act.ok_of_bind ran
      obtain ⟨prompt₂, hush₂, -⟩ := remark_hushes rfl prompt₁ idle warned
      obtain ⟨stays, ceased⟩ := openForward_ceases range.ports h₂ x h' prompt₂ ran
      exact ⟨stays, fun up => (ceased up).after (hush.trans hush₂)⟩

/-- Whether a call on a tunnel was allowed and ended in a failure of a certain kind. -/
def endedAs {ε α : Type} (kind : ε → Bool) (r : Except Misuse (Except ε α) × Tunnel) : Bool :=
  match r.1 with
  | .ok result => failedAs kind result
  | .error _ => false

theorem establish_ceases (t : Tunnel) (forceForward : Bool) :
    Act.Ceases token (endedAs TunnelError.isInterrupted)
      (t.establish b token serial range forceForward) := by
  unfold Tunnel.establish
  split
  · exact Act.Never.ceases (Act.never_pure rfl)
  · exact (negotiate_ceases forceForward).pass (fun _ => rfl) (fun _ => rfl) fun _ =>
      Act.never_pure rfl

theorem release_hushed (t : Tunnel) :
    Act.Hushed token (fun released => failedAs BridgeError.isInterrupted released.1)
      (t.release b token serial) := by
  have closed (listener : Nat) : Act.Hushed token (fun _ => false) (Net.close listener) :=
    Act.hushed_of_within ((discreet_hushes token).netClose listener)
      fun _ _ _ _ cancelled => absurd cancelled Bool.false_ne_true
  unfold Tunnel.release
  split
  · refine (act_hushed b token _).bind (fun _ _ => ?_) fun _ up => ?_
    all_goals split
    · exact (closed _).next fun _ => Act.hushed_pure rfl
    · exact Act.hushed_pure rfl
    · exact (closed _).next fun _ => Act.hushed_pure up
    · exact Act.hushed_pure up
  · exact (act_hushed b token _).bind (fun _ _ => Act.hushed_pure rfl) fun _ up =>
      Act.hushed_pure up

/-- How a removal went is reported last. -/
theorem close_ceases (t : Tunnel) :
    Act.Ceases token (endedAs BridgeError.isInterrupted) (t.close b token serial) := by
  unfold Tunnel.close
  split
  · exact Act.Never.ceases (Act.never_pure rfl)
  · refine (release_hushed t).bind_ceases (fun released up => ?_) fun released up => ?_
    · dsimp only
      rw [interrupted_of_failedAs up]
      exact (Act.hushed_note _ ⟨by simp, by simp⟩).next fun _ => Act.hushed_pure rfl
    · intro h x h' prompt ran
      obtain ⟨_, h₁, noted, ran⟩ := Act.ok_of_bind ran
      cases ran
      have regular : endedAs BridgeError.isInterrupted
          (.ok released.1, { t with enabled := false, listener? := released.2 }) = false := up
      exact ⟨noteClosed_prompt prompt noted, fun cancelled => by simp [regular] at cancelled⟩

end tunnels

/-- An operation, and the results with which it ends as cancelled. -/
inductive Cancellable (b : Bridge) (token : String) :
    {α : Type} → Act α → (α → Bool) → Prop
  | act (a : Action) :
      Cancellable b token (b.act token a) (failedAs BridgeError.isInterrupted)
  | ask (q : Query) : Cancellable b token (b.ask token q) (failedAs BridgeError.isInterrupted)
  | connect (address : String) :
      Cancellable b token (b.connect token address) (failedAs BridgeError.isInterrupted)
  | property (serial name : String) :
      Cancellable b token (b.property token serial name) (failedAs BridgeError.isInterrupted)
  | serialNumber :
      Cancellable b token (b.serialNumber token) (failedAs BridgeError.isInterrupted)
  | devices : Cancellable b token (b.devices token) (failedAs BridgeError.isInterrupted)
  | address (serial : String) :
      Cancellable b token (b.address token serial) (failedAs BridgeError.isInterrupted)
  | choose (selector : Selector) :
      Cancellable b token (b.choose token selector) (failedAs ChoiceError.isInterrupted)
  | establish (t : Tunnel) (serial : String) (range : PortRange) (forceForward : Bool) :
      Cancellable b token (t.establish b token serial range forceForward)
        (endedAs TunnelError.isInterrupted)
  | close (t : Tunnel) (serial : String) :
      Cancellable b token (t.close b token serial) (endedAs BridgeError.isInterrupted)
  | enable (serial : String) (port interval : Nat) :
      Cancellable b token (Wireless.enable b token serial port interval)
        (failedAs WirelessError.isInterrupted)
  | join (address : String) :
      Cancellable b token (Wireless.connect b token address)
        (failedAs WirelessError.isInterrupted)

theorem Cancellable.ceases {b : Bridge} {token : String} {α : Type} {m : Act α}
    {cancelled : α → Bool} (operation : Cancellable b token m cancelled) :
    Act.Ceases token cancelled m := by
  cases operation with
  | act a => exact (act_hushed b token a).ceases
  | ask q => exact ask_ceases b token q
  | connect address => exact (connect_hushed b token address).ceases
  | property serial name => exact (property_hushed b token serial name).ceases
  | serialNumber => exact (serialNumber_hushed b token).ceases
  | devices => exact devices_ceases b token
  | address serial => exact address_ceases b token serial
  | choose selector => exact choose_ceases b token selector
  | establish t serial range forceForward => exact establish_ceases t forceForward
  | close t serial => exact close_ceases t
  | enable serial port interval => exact enable_ceases b token serial port interval
  | join address => exact join_ceases b token address

/-- An operation that ends as cancelled has written neither a warning nor an error since the
interrupt, and none at all if its token was interrupted before. Every command can be started and
every kill works, and the interrupt does not come between the end of a command and the words about
it; otherwise commands do what they like, ports are taken, and anybody is interrupted at any moment.
-/
theorem cancelled_quietly {b : Bridge} {token : String} {α : Type} {m : Act α}
    {cancelled : α → Bool} (operation : Cancellable b token m cancelled) {h h' : Host} {x : α}
    (prompt : Prompt token h) (ran : m h = .ok x h') (ended : cancelled x = true) :
    h'.interrupted token = true ∧
    (h.interrupted token = true → MildSince h.events h') ∧
    (h.interrupted token = false →
      h.events <:+ h'.foreword token ∧ MildSince (h'.foreword token) h') := by
  obtain ⟨-, ceased⟩ := operation.ceases h x h' prompt ran
  obtain ⟨raised, hush⟩ := ceased ended
  exact ⟨raised, hush.raised, fun idle => hush.struck idle raised⟩

/-- One port is taken, and the interrupt comes while the next one is registered. -/
def Host.displaced : Host where
  backend earlier _ := { fate := if earlier.length = 2 then .hangs else .exits (.code 0) }
  taken := fun p => p = 5000
  strikes := [⟨2, .wait, "work", false⟩]

/-- The taken port is warned about before the interrupt, and nothing severe is written after it. -/
theorem cancelled_quietly_displaced :
    Cancellable {} "work" (Tunnel.establish { socket := "mirror" } {} "work" "phone"
        ⟨5000, 5001, by decide, by decide⟩ false) (endedAs TunnelError.isInterrupted) ∧
      Prompt "work" displaced ∧
      ∃ h', Tunnel.establish { socket := "mirror" } {} "work" "phone"
          ⟨5000, 5001, by decide, by decide⟩ false displaced =
          .ok (.ok (.error .interrupted), { socket := "mirror" }) h' ∧
        (h'.foreword "work").map (·.severity) = [.debug, .warn, .debug, .debug] ∧
        MildSince (h'.foreword "work") h' := by
  have operation : Cancellable {} "work" (Tunnel.establish { socket := "mirror" } {} "work"
      "phone" ⟨5000, 5001, by decide, by decide⟩ false) (endedAs TunnelError.isInterrupted) :=
    .establish { socket := "mirror" } "phone" _ false
  have reliable : displaced.Reliable := by
    refine ⟨fun earlier argv program => ?_, rfl, fun id => rfl⟩
    by_cases third : earlier.length = 2 <;> simp [displaced, third, Fate.spawnError?]
  have prompt : Prompt "work" displaced := ⟨reliable, fun _ => by decide⟩
  have run : Act.returned? (Tunnel.establish { socket := "mirror" } {} "work" "phone"
      ⟨5000, 5001, by decide, by decide⟩ false) displaced =
        some (.ok (.error .interrupted), { socket := "mirror" }) := by decide +kernel
  have returned := Act.of_returned? run
  obtain ⟨-, -, quiet⟩ := cancelled_quietly operation prompt returned rfl
  exact ⟨operation, prompt, _, returned, by decide +kernel, (quiet rfl).2⟩

/-- Every registration fails, and the interrupt comes when the first is over and its port is about
to be given up. -/
def Host.overtaken : Host where
  backend _ _ := { fate := .exits (.code 1) }
  strikes := [⟨0, .retry, "work", false⟩]

/-- The look at the token came before the interrupt and the warning comes after it, and then the
operation ends as cancelled. -/
theorem cancelled_loudly_overtaken :
    Cancellable {} "work" (Tunnel.establish { socket := "mirror" } {} "work" "phone"
        ⟨5000, 5001, by decide, by decide⟩ true) (endedAs TunnelError.isInterrupted) ∧
      overtaken.Reliable ∧ overtaken.interrupted "work" = false ∧
      ∃ h', Tunnel.establish { socket := "mirror" } {} "work" "phone"
          ⟨5000, 5001, by decide, by decide⟩ true overtaken =
          .ok (.ok (.error .interrupted), { socket := "mirror" }) h' ∧
        h'.events.map (·.severity) = .warn :: (h'.foreword "work").map (·.severity) ∧
        ¬ MildSince (h'.foreword "work") h' := by
  have run : Act.returned? (Tunnel.establish { socket := "mirror" } {} "work" "phone"
      ⟨5000, 5001, by decide, by decide⟩ true) overtaken =
        some (.ok (.error .interrupted), { socket := "mirror" }) := by decide +kernel
  have returned := Act.of_returned? run
  generalize after : Act.after _ overtaken = h' at returned
  have logged : h'.events.map (·.severity) =
      [Severity.warn] ++ (h'.foreword "work").map (·.severity) := by
    rw [← after]
    decide +kernel
  refine ⟨.establish { socket := "mirror" } "phone" _ true, ⟨fun _ _ _ => rfl, rfl, fun _ => rfl⟩,
    rfl, h', returned, logged, ?_⟩
  rintro ⟨later, wrote, mild⟩
  rw [wrote, List.map_append] at logged
  obtain ⟨e, rfl, warning⟩ := List.map_eq_singleton_iff.mp (List.append_cancel_right logged)
  exact (mild e (by simp)).2 warning

end DebugBridge
