import DebugBridge.Proofs.Bridge.Calm
import DebugBridge.Proofs.Tunnel.Settlement

/-!
# What a negotiation does

The negotiation of a tunnel is specified by the commands it issues and the way in which it ends.
Whether a command succeeds may depend on all commands before it; which ports are free, and what the
system will refuse, is fixed by the host at the start. Lists of commands hold the latest first.
-/

namespace DebugBridge.Tunnel

open Host

variable {b : Bridge} {token serial socket : String} {h₀ : Host} {supply : List (Option Fault)}

/-- Whether a command exits with zero, given the commands that were issued before it. -/
def Succeeds (b : Bridge) (h₀ : Host) (done : List Action) (a : Action) : Prop :=
  (h₀.backend (done.map (fun a => b.argv a.arguments) ++ h₀.commands.map (·.argv))
    (b.argv a.arguments)).fate = .exits (.code 0)

/-- Whether a port can be listened on, given the answers to come: nothing is refused before the
socket is bound, and the port is free. -/
def Listenable (h₀ : Host) (supply : List (Option Fault)) (port : Nat) : Prop :=
  (ask Net.listenRequests supply).1 = none ∧ (h₀.grantedPort? port).isSome

/-- Reverse direction: the answers to come, the ports to try, the commands before and after, and the
port on which it succeeds. -/
inductive Reversing (b : Bridge) (serial socket : String) (h₀ : Host) :
    List (Option Fault) → List Nat → List Action → List Action → Option Nat → Prop
  | exhausted {supply : List (Option Fault)} {done : List Action} :
      Reversing b serial socket h₀ supply [] done done none
  /-- A registration failed, so nothing more is tried in this direction. -/
  | abandoned {supply : List (Option Fault)} {port : Nat} {rest : List Nat} {done : List Action} :
      ¬ Succeeds b h₀ done (.reverse serial socket port) →
      Reversing b serial socket h₀ supply (port :: rest) done (.reverse serial socket port :: done)
        none
  | opened {supply : List (Option Fault)} {port : Nat} {rest : List Nat} {done : List Action} :
      Succeeds b h₀ done (.reverse serial socket port) → Listenable h₀ supply port →
      Reversing b serial socket h₀ supply (port :: rest) done (.reverse serial socket port :: done)
        (some port)
  /-- The port cannot be listened on: its registration is removed, with whatever success. -/
  | retried {supply : List (Option Fault)} {port : Nat} {rest : List Nat}
      {done done' : List Action} {result : Option Nat} :
      Succeeds b h₀ done (.reverse serial socket port) → ¬ Listenable h₀ supply port →
      Reversing b serial socket h₀ (ask Net.listenRequests supply).2 rest
        (.reverseRemove serial socket :: .reverse serial socket port :: done) done' result →
      Reversing b serial socket h₀ supply (port :: rest) done done' result

/-- Forward direction, likewise. -/
inductive Forwarding (b : Bridge) (serial socket : String) (h₀ : Host) :
    List Nat → List Action → List Action → Option Nat → Prop
  | exhausted {done : List Action} : Forwarding b serial socket h₀ [] done done none
  | opened {port : Nat} {rest : List Nat} {done : List Action} :
      Succeeds b h₀ done (.forward serial port socket) →
      Forwarding b serial socket h₀ (port :: rest) done (.forward serial port socket :: done)
        (some port)
  | retried {port : Nat} {rest : List Nat} {done done' : List Action} {result : Option Nat} :
      ¬ Succeeds b h₀ done (.forward serial port socket) →
      Forwarding b serial socket h₀ rest (.forward serial port socket :: done) done' result →
      Forwarding b serial socket h₀ (port :: rest) done done' result

/-- How a negotiation ends. -/
inductive Ending where
  | reverse (port : Nat)
  | forward (port : Nat)
  | exhausted
  deriving DecidableEq, Repr

/-- A whole negotiation: reverse direction unless it is skipped, and then forward direction unless
that succeeded. -/
inductive Negotiating (b : Bridge) (serial socket : String) (h₀ : Host) (ports : List Nat) :
    (forceForward : Bool) → List Action → Ending → Prop
  | reverse {done : List Action} {port : Nat} :
      Reversing b serial socket h₀ h₀.supply ports [] done (some port) →
      Negotiating b serial socket h₀ ports false done (.reverse port)
  | fallback {before done : List Action} {result : Option Nat} :
      Reversing b serial socket h₀ h₀.supply ports [] before none →
      Forwarding b serial socket h₀ ports before done result →
      Negotiating b serial socket h₀ ports false done (result.elim .exhausted .forward)
  | forced {done : List Action} {result : Option Nat} :
      Forwarding b serial socket h₀ ports [] done result →
      Negotiating b serial socket h₀ ports true done (result.elim .exhausted .forward)

theorem Reversing.unique {ports : List Nat} {done done₁ done₂ : List Action} {r₁ r₂ : Option Nat}
    (a : Reversing b serial socket h₀ supply ports done done₁ r₁)
    (c : Reversing b serial socket h₀ supply ports done done₂ r₂) : done₁ = done₂ ∧ r₁ = r₂ := by
  induction a with
  | exhausted =>
    cases c
    exact ⟨rfl, rfl⟩
  | abandoned failed =>
    cases c with
    | abandoned => exact ⟨rfl, rfl⟩
    | opened ok => exact absurd ok failed
    | retried ok => exact absurd ok failed
  | opened ok free =>
    cases c with
    | abandoned failed => exact absurd ok failed
    | opened => exact ⟨rfl, rfl⟩
    | retried _ taken => exact absurd free taken
  | retried ok taken _ ih =>
    cases c with
    | abandoned failed => exact absurd ok failed
    | opened _ free => exact absurd free taken
    | retried _ _ further => exact ih further

theorem Forwarding.unique {ports : List Nat} {done done₁ done₂ : List Action} {r₁ r₂ : Option Nat}
    (a : Forwarding b serial socket h₀ ports done done₁ r₁)
    (c : Forwarding b serial socket h₀ ports done done₂ r₂) : done₁ = done₂ ∧ r₁ = r₂ := by
  induction a with
  | exhausted =>
    cases c
    exact ⟨rfl, rfl⟩
  | opened ok =>
    cases c with
    | opened => exact ⟨rfl, rfl⟩
    | retried failed => exact absurd ok failed
  | retried failed _ ih =>
    cases c with
    | opened ok => exact absurd ok failed
    | retried _ further => exact ih further

/-- The specification leaves no choice: it determines the commands and the ending. -/
theorem Negotiating.unique {ports : List Nat} {forceForward : Bool} {done₁ done₂ : List Action}
    {e₁ e₂ : Ending} (a : Negotiating b serial socket h₀ ports forceForward done₁ e₁)
    (c : Negotiating b serial socket h₀ ports forceForward done₂ e₂) :
    done₁ = done₂ ∧ e₁ = e₂ := by
  cases a with
  | reverse opened =>
    cases c with
    | reverse opened' =>
      obtain ⟨rfl, same⟩ := opened.unique opened'
      exact ⟨rfl, congrArg Ending.reverse (Option.some.inj same)⟩
    | fallback given => exact absurd (opened.unique given).2 (by simp)
  | fallback given further =>
    cases c with
    | reverse opened => exact absurd (given.unique opened).2 (by simp)
    | fallback given' further' =>
      obtain ⟨rfl, -⟩ := given.unique given'
      obtain ⟨rfl, rfl⟩ := further.unique further'
      exact ⟨rfl, rfl⟩
  | forced further =>
    cases c with
    | forced further' =>
      obtain ⟨rfl, rfl⟩ := further.unique further'
      exact ⟨rfl, rfl⟩

/-- Without interrupts a remark is only written. -/
theorem remark_calm (point : Point) (severity : Severity) (text : String) {h : Host}
    (calm : h.strikes = []) : remark point severity text h = .ok () (h.note severity text) := by
  have reached : reachLatest point h = .ok () h := by
    unfold reachLatest
    rw [Act.modify_apply]
    split
    · rfl
    · rw [strike_nil calm]
  rw [remark, Act.bind_apply, reached]
  rfl

/-- The host in the middle of a negotiation that began on `h₀`. -/
structure Underway (b : Bridge) (token : String) (h₀ : Host) (supply : List (Option Fault))
    (done : List Action) (h : Host) : Prop where
  calm : h.strikes = []
  idle : h.interrupted token = false
  backend : h.backend = h₀.backend
  supply : h.supply = supply
  commands : h.commands.map (·.argv) =
    done.map (fun a => b.argv a.arguments) ++ h₀.commands.map (·.argv)
  listening : ∀ p, h.isListening p = h₀.isListening p

theorem Underway.start (calm : h₀.strikes = []) (idle : h₀.interrupted token = false) :
    Underway b token h₀ h₀.supply [] h₀ :=
  ⟨calm, idle, rfl, rfl, rfl, fun _ => rfl⟩

/-- What is written does not matter. -/
theorem Underway.write {done : List Action} {h : Host}
    (underway : Underway b token h₀ supply done h) (events : List Event) :
    Underway b token h₀ supply done { h with events := events } :=
  ⟨underway.calm, underway.idle, underway.backend, underway.supply, underway.commands,
    underway.listening⟩

/-- A registration that could not be taken back is only written about. -/
theorem Underway.noteUndoFailure {done : List Action} {h : Host}
    (underway : Underway b token h₀ supply done h) (direction : Direction) (e : BridgeError) :
    ∃ h', noteUndoFailure direction e h = .ok () h' ∧ Underway b token h₀ supply done h' := by
  unfold Tunnel.noteUndoFailure
  split
  · exact ⟨_, rfl, underway.write _⟩
  · exact ⟨_, remark_calm _ _ _ underway.calm, underway.write _⟩

theorem Underway.noteListenFailure {done : List Action} {h : Host}
    (underway : Underway b token h₀ supply done h) (range : PortRange) (port : Nat) (e : NetError) :
    ∃ h', noteListenFailure range port e h = .ok () h' ∧ Underway b token h₀ supply done h' := by
  unfold Tunnel.noteListenFailure
  split
  · exact ⟨_, remark_calm _ _ _ underway.calm, underway.write _⟩
  · split <;> exact ⟨_, remark_calm _ _ _ underway.calm, underway.write _⟩

/-- In the middle of a negotiation an action returns and tells whether its command succeeded. -/
theorem Underway.act {done : List Action} {h : Host}
    (underway : Underway b token h₀ supply done h)
    (ends : ∀ before argv, (h₀.backend before argv).fate ≠ .hangs) (a : Action) :
    ∃ result h', b.act token a h = .ok result h' ∧ Underway b token h₀ supply (a :: done) h' ∧
      (result = .ok () ∧ Succeeds b h₀ done a ∨
        ∃ e, result = .error e ∧ e.isInterrupted = false ∧ ¬ Succeeds b h₀ done a) := by
  have reply : h.replyTo (b.argv a.arguments) =
      h₀.backend (done.map (fun a => b.argv a.arguments) ++ h₀.commands.map (·.argv))
        (b.argv a.arguments) := by
    unfold replyTo
    rw [underway.backend, underway.commands]
  obtain ⟨h', child?, returned, commands, calmly, sockets, socketCount⟩ :=
    act_calm b token a underway.calm underway.idle (reply ▸ ends _ _)
  have listening (p : Nat) : h'.isListening p = h.isListening p :=
    isListening_congr calmly.taken sockets socketCount p
  have underway' : Underway b token h₀ supply (a :: done) h' := {
    calm := calmly.strikes.trans underway.calm
    idle := (calmly.flags token).trans underway.idle
    backend := calmly.backend.trans underway.backend
    supply := calmly.supply.trans underway.supply
    commands := by simp [commands, underway.commands]
    listening := fun p => (listening p).trans (underway.listening p) }
  refine ⟨_, h', returned, underway', ?_⟩
  · rw [reply]
    unfold Succeeds
    cases judged : fateVerdict b.executable a.name (h₀.backend (done.map (fun a =>
        b.argv a.arguments) ++ h₀.commands.map (·.argv)) (b.argv a.arguments)).fate with
    | ok => exact .inl ⟨rfl, fateVerdict_eq_ok.mp judged⟩
    | error e =>
      refine .inr ⟨e, rfl, isInterrupted_fateVerdict (ends _ _) judged, fun exited => ?_⟩
      simp [fateVerdict_eq_ok.mpr exited] at judged

/-- In the middle of a negotiation a port that can be listened on is listened on; any other changes
nothing but what the system was asked for. -/
theorem Underway.listen {done : List Action} {h : Host}
    (underway : Underway b token h₀ supply done h) (port : Nat) :
    (∃ granted listener h', Listenable h₀ supply port ∧ h₀.grantedPort? port = some granted ∧
        Net.listen token port h = .ok (.ok listener) h' ∧
        h'.commands = h.commands ∧
        h'.sockets listener = .listener { endpoint := .loopback granted } ∧
        ∀ p, h'.isListening p = (h₀.isListening p || decide (p = granted))) ∨
      ∃ e h', ¬ Listenable h₀ supply port ∧ Net.listen token port h = .ok (.error e) h' ∧
        Underway b token h₀ (ask Net.listenRequests supply).2 done h' := by
  have kept {h' : Host} (commands : h'.commands = h.commands)
      (calmly : Calmly (h.supplied Net.listenRequests) h')
      (listening : ∀ p, h'.isListening p = h₀.isListening p) :
      Underway b token h₀ (ask Net.listenRequests supply).2 done h' := {
    calm := calmly.strikes.trans underway.calm
    idle := (calmly.flags token).trans underway.idle
    backend := calmly.backend.trans underway.backend
    supply := calmly.supply.trans (by rw [← underway.supply]; rfl)
    commands := commands ▸ underway.commands
    listening := listening }
  cases asked : h.granted Net.listenRequests (.loopback port) with
  | error e =>
    obtain ⟨h', returned, commands, calmly, listening⟩ := listen_denied token port asked
    refine .inr ⟨e, h', fun able => ?_, returned,
      kept commands calmly fun p => (listening p).trans (underway.listening p)⟩
    rw [granted, underway.supply, able.1] at asked
    cases asked
  | ok =>
    obtain ⟨h', returned, commands, calmly, sockets, socketCount⟩ :=
      listen_calm token port underway.calm underway.idle asked
    rw [grantedPort?_congr underway.listening] at returned sockets
    have listening (p : Nat) : h'.isListening p = (h₀.isListening p ||
        (openedListener port h.socketCount (h₀.grantedPort? port)).2.listensOn p) := by
      rw [← underway.listening, ← isListening_addSocket]
      exact isListening_congr (h := (h.addSocket _).2) calmly.taken sockets socketCount p
    cases free : h₀.grantedPort? port with
    | some port' =>
      rw [free] at returned sockets listening
      have able : Listenable h₀ supply port :=
        ⟨underway.supply ▸ ask_of_granted asked, by simp [free]⟩
      refine .inl ⟨port', h.socketCount, h', able, rfl, returned, commands, ?_, fun p => ?_⟩
      · rw [sockets]
        exact assign_same _ _ _
      · rw [listening]
        simp [openedListener, Socket.listensOn, eq_comm]
    | none =>
      rw [free] at returned sockets listening
      refine .inr ⟨_, h', fun able => ?_, returned,
        kept commands calmly fun p => (listening p).trans ?_⟩
      · simp [Listenable, free] at able
      · simp [openedListener, Socket.listensOn]

/-- The host after a negotiation that ended in no reverse direction. -/
structure Negotiated (b : Bridge) (h₀ : Host) (done : List Action) (h : Host) : Prop where
  commands : h.commands.map (·.argv) =
    done.map (fun a => b.argv a.arguments) ++ h₀.commands.map (·.argv)
  listening : ∀ p, h.isListening p = h₀.isListening p

/-- The host after a tunnel was opened in reverse direction: one socket listens that did not. -/
structure Accepting (b : Bridge) (h₀ : Host) (port listener : Nat) (done : List Action) (h : Host) :
    Prop where
  commands : h.commands.map (·.argv) =
    done.map (fun a => b.argv a.arguments) ++ h₀.commands.map (·.argv)
  listening : ∃ granted, h₀.grantedPort? port = some granted ∧
    h.sockets listener = .listener { endpoint := .loopback granted } ∧
    ∀ p, h.isListening p = (h₀.isListening p || decide (p = granted))

theorem Underway.negotiated {done : List Action} {h : Host}
    (underway : Underway b token h₀ supply done h) : Negotiated b h₀ done h :=
  ⟨underway.commands, underway.listening⟩

theorem Accepting.note {port listener : Nat} {done : List Action} {h : Host}
    (accepting : Accepting b h₀ port listener done h) (severity : Severity) (text : String) :
    Accepting b h₀ port listener done (h.note severity text) :=
  ⟨accepting.commands, accepting.listening⟩

/-- What reverse direction returns and leaves behind where its specification is followed. -/
inductive Reversed (b : Bridge) (token serial socket : String) (h₀ : Host)
    (supply : List (Option Fault)) (ports : List Nat) (done : List Action) :
    EStateM.Result Halt Host (Except TunnelError (Option Passage)) → Prop
  | gaveWay {supply' : List (Option Fault)} {done' : List Action} {h' : Host} :
      Reversing b serial socket h₀ supply ports done done' none →
      Underway b token h₀ supply' done' h' →
      Reversed b token serial socket h₀ supply ports done (.ok (.ok none) h')
  | opened {done' : List Action} {port listener : Nat} {h' : Host} :
      Reversing b serial socket h₀ supply ports done done' (some port) →
      Accepting b h₀ port listener done' h' →
      Reversed b token serial socket h₀ supply ports done
        (.ok (.ok (some (.reverse port listener))) h')

/-- What forward direction returns and leaves behind, likewise. -/
inductive Forwarded (b : Bridge) (serial socket : String) (range : PortRange) (h₀ : Host)
    (ports : List Nat) (done : List Action) :
    EStateM.Result Halt Host (Except TunnelError Passage) → Prop
  | exhausted {done' : List Action} {h' : Host} :
      Forwarding b serial socket h₀ ports done done' none → Negotiated b h₀ done' h' →
      Forwarded b serial socket range h₀ ports done (.ok (.error (.portRangeExhausted range)) h')
  | opened {done' : List Action} {port : Nat} {h' : Host} :
      Forwarding b serial socket h₀ ports done done' (some port) → Negotiated b h₀ done' h' →
      Forwarded b serial socket range h₀ ports done (.ok (.ok (.forward port)) h')

theorem Reversed.retried {port : Nat} {rest : List Nat} {done : List Action}
    {r : EStateM.Result Halt Host (Except TunnelError (Option Passage))}
    (ok : Succeeds b h₀ done (.reverse serial socket port))
    (taken : ¬ Listenable h₀ supply port)
    (further : Reversed b token serial socket h₀ (ask Net.listenRequests supply).2 rest
      (.reverseRemove serial socket :: .reverse serial socket port :: done) r) :
    Reversed b token serial socket h₀ supply (port :: rest) done r := by
  cases further with
  | gaveWay reversing underway => exact .gaveWay (.retried ok taken reversing) underway
  | opened reversing accepting => exact .opened (.retried ok taken reversing) accepting

theorem Forwarded.retried {range : PortRange} {port : Nat} {rest : List Nat} {done : List Action}
    {r : EStateM.Result Halt Host (Except TunnelError Passage)}
    (failed : ¬ Succeeds b h₀ done (.forward serial port socket))
    (further : Forwarded b serial socket range h₀ rest (.forward serial port socket :: done) r) :
    Forwarded b serial socket range h₀ (port :: rest) done r := by
  cases further with
  | exhausted forwarding negotiated => exact .exhausted (.retried failed forwarding) negotiated
  | opened forwarding negotiated => exact .opened (.retried failed forwarding) negotiated

/-- Reverse direction follows its specification, port by port. -/
theorem openReverse_refines (serial socket : String) (range : PortRange)
    (ends : ∀ before argv, (h₀.backend before argv).fate ≠ .hangs) (ports : List Nat) :
    ∀ {supply : List (Option Fault)} {done : List Action} {h : Host},
      Underway b token h₀ supply done h →
      Reversed b token serial socket h₀ supply ports done
        (openReverse b token serial socket range ports h) := by
  induction ports with
  | nil => exact fun underway => .gaveWay .exhausted underway
  | cons port rest ih =>
    intro supply done h underway
    obtain ⟨registered, h₁, acted, underway₁, verdict⟩ :=
      underway.act ends (.reverse serial socket port)
    unfold openReverse
    rw [Act.bind_apply, acted]
    obtain ⟨rfl, ok⟩ | ⟨e, rfl, regular, failed⟩ := verdict
    · simp only
      rw [Act.bind_apply]
      obtain ⟨granted, listener, h₂, able, free, listened, commands, bound, listening⟩ |
        ⟨e, h₂, taken, listened, underway₂⟩ := underway₁.listen port
      · have accepting : Accepting b h₀ port listener (.reverse serial socket port :: done) h₂ :=
          ⟨commands ▸ underway₁.commands, granted, free, bound, listening⟩
        rw [listened]
        exact .opened (.opened ok able) (accepting.note _ _)
      · have resumed : ∀ {h₃ : Host}, Underway b token h₀ (ask Net.listenRequests supply).2
            (.reverseRemove serial socket :: .reverse serial socket port :: done) h₃ →
            Reversed b token serial socket h₀ supply (port :: rest) done ((do
              if ← isInterrupted token then return .error .interrupted
              noteListenFailure range port e
              openReverse b token serial socket range rest :
                Act (Except TunnelError (Option Passage))) h₃) := by
          intro h₃ underway₃
          obtain ⟨h₄, noted, underway₄⟩ := underway₃.noteListenFailure range port e
          have further := ih underway₄
          simp only [Act.bind_apply, Act.isInterrupted_apply, underway₃.idle, Bool.false_eq_true,
            if_false, noted]
          exact further.retried ok taken
        obtain ⟨removed, h₃, acted₃, underway₃, -⟩ :=
          underway₂.act ends (.reverseRemove serial socket)
        rw [listened]
        simp only
        rw [Act.bind_apply, acted₃]
        cases removed with
        | ok => exact resumed underway₃
        | error cause =>
          obtain ⟨h₄, noted, underway₄⟩ := underway₃.noteUndoFailure .reverse cause
          simp only
          rw [Act.bind_apply, noted]
          exact resumed underway₄
    · simp only [regular]
      simp only [Bool.false_eq_true, if_false]
      rw [Act.bind_apply, remark_calm _ _ _ underway₁.calm]
      exact .gaveWay (.abandoned failed) (underway₁.write _)

/-- Forward direction follows its specification, port by port. -/
theorem openForward_refines (serial socket : String) (range : PortRange)
    (ends : ∀ before argv, (h₀.backend before argv).fate ≠ .hangs) (ports : List Nat) :
    ∀ {done : List Action} {h : Host}, Underway b token h₀ supply done h →
      Forwarded b serial socket range h₀ ports done
        (openForward b token serial socket range ports h) := by
  induction ports with
  | nil =>
    intro done h underway
    unfold openForward
    split <;> exact .exhausted .exhausted (underway.write _).negotiated
  | cons port rest ih =>
    intro done h underway
    obtain ⟨registered, h₁, acted, underway₁, verdict⟩ :=
      underway.act ends (.forward serial port socket)
    unfold openForward
    rw [Act.bind_apply, acted]
    obtain ⟨rfl, ok⟩ | ⟨e, rfl, regular, failed⟩ := verdict
    · exact .opened (.opened ok) (underway₁.write _).negotiated
    · simp only [regular, Act.bind_apply, Act.isInterrupted_apply, underway₁.idle,
        Bool.false_eq_true, if_false]
      split
      · rw [Act.bind_apply, remark_calm _ _ _ underway₁.calm]
        exact (ih (underway₁.write _)).retried failed
      · exact (ih underway₁).retried failed

/-- Without interrupts a negotiation always returns, issues exactly the commands of its
specification and ends as that says: in reverse direction the tunnel owns the one new listener, in
forward direction and without any port nothing new listens, and without any port the tunnel stays
closed. -/
theorem establish_refines (t : Tunnel) (b : Bridge) (token serial : String) (range : PortRange)
    (forceForward : Bool) (h : Host) (isClosed : t.enabled = false) (calm : h.strikes = [])
    (idle : h.interrupted token = false)
    (ends : ∀ before argv, (h.backend before argv).fate ≠ .hangs) :
    ∃ done ending h', Negotiating b serial t.socket h range.ports forceForward done ending ∧
      match ending with
      | .reverse port => ∃ listener, Accepting b h port listener done h' ∧
          t.establish b token serial range forceForward h =
            .ok (.ok (.ok ()), t.through (.reverse port listener)) h'
      | .forward port => Negotiated b h done h' ∧
          t.establish b token serial range forceForward h =
            .ok (.ok (.ok ()), t.through (.forward port)) h'
      | .exhausted => Negotiated b h done h' ∧
          t.establish b token serial range forceForward h =
            .ok (.ok (.error (.portRangeExhausted range)), t) h' := by
  have begun : Underway b token h h.supply [] h := .start calm idle
  rw [establish_closed isClosed]
  unfold negotiate
  cases forceForward with
  | true =>
    simp only [if_true]
    have forwarded := openForward_refines serial t.socket range ends range.ports begun
    generalize openForward b token serial t.socket range range.ports h = run at forwarded ⊢
    cases forwarded with
    | exhausted forwarding negotiated => exact ⟨_, _, _, .forced forwarding, negotiated, rfl⟩
    | opened forwarding negotiated => exact ⟨_, _, _, .forced forwarding, negotiated, rfl⟩
  | false =>
    simp only [Bool.false_eq_true, if_false]
    have reversed := openReverse_refines serial t.socket range ends range.ports begun
    rw [Act.bind_apply]
    generalize openReverse b token serial t.socket range range.ports h = run at reversed ⊢
    cases reversed with
    | opened reversing accepting => exact ⟨_, _, _, .reverse reversing, _, accepting, rfl⟩
    | @gaveWay _ before h₁ reversing underway =>
      have noted : Underway b token h _ before
          (h₁.note .warn "'adb reverse' failed, fallback to 'adb forward'") := underway.write _
      have forwarded := openForward_refines serial t.socket range ends range.ports noted
      simp only
      rw [Act.bind_apply, remark_calm _ _ _ underway.calm]
      simp only
      generalize openForward b token serial t.socket range range.ports _ = run at forwarded ⊢
      cases forwarded with
      | exhausted forwarding negotiated =>
        exact ⟨_, _, _, .fallback reversing forwarding, negotiated, rfl⟩
      | opened forwarding negotiated =>
        exact ⟨_, _, _, .fallback reversing forwarding, negotiated, rfl⟩

/-- Of two ports the first is taken: it is registered and removed, and the second is used. -/
theorem establish_refines_second :
    ∃ h' listener,
      establish { socket := "mirror" } {} "work" "phone" ⟨5000, 5001, by decide, by decide⟩ false
          { backend := fun _ _ => {}, taken := fun p => p = 5000 } =
        .ok (.ok (.ok ()), ({ socket := "mirror" } : Tunnel).through (.reverse 5001 listener)) h' ∧
      h'.commands.map (·.argv) = [Action.reverse "phone" "mirror" 5001,
        .reverseRemove "phone" "mirror", .reverse "phone" "mirror" 5000].map
          fun a => ({} : Bridge).argv a.arguments := by
  obtain ⟨done, ending, h', negotiating, ended⟩ := establish_refines { socket := "mirror" } {}
    "work" "phone" ⟨5000, 5001, by decide, by decide⟩ false
    { backend := fun _ _ => {}, taken := fun p => p = 5000 } rfl rfl rfl (fun _ _ => by simp)
  have expected : Negotiating {} "phone" "mirror"
      { backend := fun _ _ => {}, taken := fun p => p = 5000 } [5000, 5001] false
      [.reverse "phone" "mirror" 5001, .reverseRemove "phone" "mirror",
        .reverse "phone" "mirror" 5000] (.reverse 5001) :=
    .reverse (.retried rfl (fun able => absurd able.2 (by decide)) (.opened rfl ⟨rfl, rfl⟩))
  obtain ⟨rfl, rfl⟩ := negotiating.unique expected
  obtain ⟨listener, accepting, established⟩ := ended
  exact ⟨h', listener, established, accepting.commands.trans (List.append_nil _)⟩

end DebugBridge.Tunnel
