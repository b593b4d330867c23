import DebugBridge.Proofs.Tunnel.Settlement

/-!
# The life of a tunnel

A tunnel is opened and closed any number of times, with any arguments, while others interrupt tokens
and take and release ports. At every moment it owns a socket exactly if it is open in reverse
direction, and closing it takes back what the last successful opening registered. The four fields
that say so are set by different calls, so that they agree is an invariant of the whole life.
-/

namespace DebugBridge

open Host

namespace Host

theorem unconnected_updateStream {id other : Nat} {f : Stream → Stream} {h : Host}
    (e : h.sockets other = .unconnected) : (h.updateStream id f).sockets other = .unconnected := by
  obtain e' | ⟨s, e', -⟩ := sockets_updateStream id other f h
  · rw [e', e]
  · simp [e] at e'

theorem unconnected_closeWaiting {stream other : Nat} {h : Host}
    (e : h.sockets other = .unconnected) :
    (h.closeWaiting stream).sockets other = .unconnected := by
  unfold closeWaiting
  split
  · exact unconnected_updateStream (unconnected_updateStream e)
  · exact e

theorem listensOn_closeWaiting (h : Host) (stream other p : Nat) :
    ((h.closeWaiting stream).sockets other).listensOn p = (h.sockets other).listensOn p := by
  unfold closeWaiting
  split
  · rw [listensOn_updateStream, listensOn_updateStream]
  · rfl

/-- A closed listener is gone, and nobody else begins to listen. -/
theorem closeSocket_listener {id : Nat} {l : Listener} {h : Host}
    (listener : h.sockets id = .listener l) :
    (h.closeSocket id).sockets id = .unconnected ∧
      ∀ other p, ((h.closeSocket id).sockets other).listensOn p = true →
        (h.sockets other).listensOn p = true := by
  have closing : ∀ (waiting : List Nat) (h₁ : Host), h₁.sockets id = .unconnected →
      (waiting.foldl closeWaiting h₁).sockets id = .unconnected ∧
      ∀ other p, ((waiting.foldl closeWaiting h₁).sockets other).listensOn p =
        (h₁.sockets other).listensOn p := by
    intro waiting
    induction waiting with
    | nil => exact fun h₁ gone => ⟨gone, fun _ _ => rfl⟩
    | cons stream rest ih =>
      intro h₁ gone
      obtain ⟨gone', same⟩ := ih (h₁.closeWaiting stream) (unconnected_closeWaiting gone)
      exact ⟨gone', fun other p => (same other p).trans (listensOn_closeWaiting h₁ stream other p)⟩
  have gone : (h.updateSocket id fun _ => .unconnected).sockets id = .unconnected := by
    simp [updateSocket]
  obtain ⟨closed, same⟩ := closing l.waiting _ gone
  unfold closeSocket
  rw [listener]
  refine ⟨closed, fun other p listens => ?_⟩
  have before := (same other p).symm.trans listens
  by_cases eq : other = id
  · subst eq
    simp [gone, Socket.listensOn] at before
  · simpa [updateSocket, eq] using before

/-- Whoever is closed, nobody begins to listen. -/
theorem fewer_closeSocket (id : Nat) (h : Host) : Fewer h (h.closeSocket id) := by
  have listens (other p : Nat) (listening : ((h.closeSocket id).sockets other).listensOn p = true) :
      (h.sockets other).listensOn p = true := by
    cases e : h.sockets id with
    | listener l => exact (closeSocket_listener e).2 other p listening
    | unconnected => simpa only [closeSocket, e] using listening
    | stream s =>
      simp only [closeSocket, closeStream, e] at listening
      split at listening
      · exact listening
      · simpa only [listensOn_updateStream] using listening
  obtain ⟨sockets, e⟩ := closeSocket_eq id h
  rw [e] at listens ⊢
  exact ⟨rfl, Nat.le_refl _, fun other p lt listening => ⟨lt, listens other p listening⟩⟩

/-- What may happen on the host between two calls: an interrupt; another backend, and other strikes,
alarms, cues, answers, visitors and receptions for what comes; and somebody else begins to listen on
a free port or stops. -/
inductive Elsewhere : Host → Host → Prop
  | interrupt (name : String) (h : Host) : Elsewhere h (h.interrupt name)
  | schedule (backend : Backend) (strikes : List Strike) (alarms : List Alarm) (cues : List Cue)
      (supply : List (Option Fault)) (visitors : Nat → List (Except Fault Peer))
      (reception : Nat → Except Fault Peer) (h : Host) : Elsewhere h
        { h with
          backend := backend, strikes := strikes, alarms := alarms, cues := cues, supply := supply,
          visitors := visitors, reception := reception }
  | take {port : Nat} {h : Host} : h.isListening port = false →
      Elsewhere h { h with taken := assign h.taken port true }
  | release (port : Nat) (h : Host) : Elsewhere h { h with taken := assign h.taken port false }

theorem Elsewhere.coherent {h h' : Host} (elsewhere : Elsewhere h h') (coherent : Coherent h) :
    Coherent h' := by
  cases elsewhere with
  | interrupt name => exact coherent.undisturbed (quiet_interrupt name h).toUndisturbed
  | schedule => exact coherent
  | take => exact coherent
  | release => exact coherent

/-- Nobody else takes a port on which an owned socket listens. -/
theorem Elsewhere.owned {id : Nat} {h h' : Host} (elsewhere : Elsewhere h h')
    (owned : Owned id h) : Owned id h' := by
  cases elsewhere with
  | interrupt name => exact owned.undisturbed (quiet_interrupt name h).toUndisturbed
  | schedule => exact ⟨owned.opened, owned.unarmed, owned.listener, owned.free, owned.alone⟩
  | @take port _ unused =>
    refine ⟨owned.opened, owned.unarmed, owned.listener, fun p listens => ?_, owned.alone⟩
    by_cases eq : p = port
    · subst eq
      simp only [isListening, Bool.or_eq_false_iff, List.any_eq_false, List.mem_range] at unused
      exact absurd listens (unused.2 id owned.opened)
    · simpa [eq] using owned.free p listens
  | release port =>
    refine ⟨owned.opened, owned.unarmed, owned.listener, fun p listens => ?_, owned.alone⟩
    by_cases eq : p = port
    · simp [eq]
    · simpa [eq] using owned.free p listens

theorem Elsewhere.onward {h h' : Host} (elsewhere : Elsewhere h h') (token : String) :
    Onward token h h' := by
  cases elsewhere with
  | interrupt name => exact (quiet_interrupt name h).onward token
  | schedule => exact onward_of_same token rfl rfl rfl rfl rfl
  | take => exact onward_of_same token rfl rfl rfl rfl rfl
  | release => exact onward_of_same token rfl rfl rfl rfl rfl

end Host

/-- The action that takes a registration back; the device may be addressed in another way. -/
def Action.undo? (serial : String) : Action → Option Action
  | .forward _ port _ => some (.forwardRemove serial port)
  | .reverse _ socket _ => some (.reverseRemove serial socket)
  | _ => none

namespace Tunnel

/-- The registration that an open tunnel relies on. -/
def registration? (serial : String) (t : Tunnel) : Option Action :=
  t.direction?.map fun
    | .reverse => .reverse serial t.socket t.localPort
    | .forward => .forward serial t.localPort t.socket

/-- The passage that the fields of a tunnel stand for, or that they stand for none. -/
inductive Represents (t : Tunnel) : Option Passage → Prop
  | disabled : t.enabled = false → t.listener? = none → Represents t none
  | reverse {listener : Nat} : t.enabled = true → t.direction = .reverse →
      t.listener? = some listener → Represents t (some (.reverse t.localPort listener))
  | forward : t.enabled = true → t.direction = .forward → t.listener? = none →
      Represents t (some (.forward t.localPort))

theorem represents_through (t : Tunnel) (passage : Passage) :
    (t.through passage).Represents (some passage) := by
  cases passage with
  | reverse => exact .reverse rfl rfl rfl
  | forward => exact .forward rfl rfl rfl

namespace Represents

variable {t : Tunnel} {passage? : Option Passage}

/-- A tunnel owns a socket exactly in reverse direction. -/
theorem owns (represents : t.Represents passage?) :
    t.listener?.isSome = true ↔ t.direction? = some .reverse := by
  cases represents with
  | disabled off unowned => simp [direction?, off, unowned]
  | reverse on directed owned => simp [direction?, on, directed, owned]
  | forward on directed unowned => simp [direction?, on, directed, unowned]

theorem unowned (represents : t.Represents passage?) (directed : t.direction = .forward) :
    t.listener? = none := by
  cases represents with
  | disabled _ unowned => exact unowned
  | reverse _ reversed => simp [directed] at reversed
  | forward _ _ unowned => exact unowned

end Represents

/-- The reachable states of a tunnel and its host, with the last command of the last successful
opening. Every call may use another bridge, token, serial, range and direction. -/
inductive Life (socket : String) : Tunnel → Host → Option Command → Prop
  | fresh {h : Host} : Coherent h → Life socket { socket := socket } h none
  | opened {t t' : Tunnel} {h h' : Host} {last? : Option Command} (b : Bridge)
      (token serial : String) (range : PortRange) (forceForward : Bool) : Life socket t h last? →
      t.establish b token serial range forceForward h = .ok (.ok (.ok ()), t') h' →
      Life socket t' h' h'.commands.head?
  | notOpened {t t' : Tunnel} {h h' : Host} {last? : Option Command}
      {result : Except Misuse (Except TunnelError Unit)} (b : Bridge) (token serial : String)
      (range : PortRange) (forceForward : Bool) : Life socket t h last? → result ≠ .ok (.ok ()) →
      t.establish b token serial range forceForward h = .ok (result, t') h' →
      Life socket t' h' last?
  | closed {t t' : Tunnel} {h h' : Host} {last? : Option Command}
      {result : Except Misuse (Except BridgeError Unit)} (b : Bridge) (token serial : String) :
      Life socket t h last? → t.close b token serial h = .ok (result, t') h' →
      Life socket t' h' last?
  | elsewhere {t : Tunnel} {h h' : Host} {last? : Option Command} : Life socket t h last? →
      Elsewhere h h' → Life socket t h' last?

structure Kept (socket : String) (t : Tunnel) (h : Host) (last? : Option Command) : Prop where
  same : t.socket = socket
  represents : ∃ passage?, t.Represents passage?
  coherent : Coherent h
  owned : ∀ id, t.listener? = some id → Owned id h
  registered : t.enabled = true → ∃ c b serial a, last? = some c ∧
    t.registration? serial = some a ∧ Registered b a c h

/-- Exactly one command was issued, unless the token was interrupted before. -/
def IssuedOnce (b : Bridge) (token : String) (a : Action) (h h' : Host) : Prop :=
  if h.interrupted token = true then h'.commands = h.commands
  else ∃ c, h'.commands = c :: h.commands ∧ c.argv = b.argv a.arguments

/-- The ways in which an open tunnel is closed. -/
inductive Closing (b : Bridge) (token : String) (removal : Action) (t : Tunnel) (h : Host) :
    EStateM.Result Halt Host (Except Misuse (Except BridgeError Unit) × Tunnel) → Prop
  /-- Whatever came of the removal, the tunnel is closed and its socket and port are free. -/
  | closed {result : Except BridgeError Unit} {h' : Host} : IssuedOnce b token removal h h' →
      (∀ id, t.listener? = some id → h'.sockets id = .unconnected ∧
        ∀ p, (h.sockets id).listensOn p = true → h'.isListening p = false) →
      Closing b token removal t h
        (.ok (.ok result, { t with enabled := false, listener? := none }) h')
  /-- The removal runs, and nothing is left that would end it. -/
  | halted {c : Command} {halt : Halt} {h' : Host} : h.interrupted token = false →
      h'.commands = c :: h.commands → c.argv = b.argv removal.arguments → Running c h' →
      Closing b token removal t h (.error halt h')

variable {b : Bridge} {token serial : String} {t : Tunnel} {h h' : Host}

theorem issuedOnce_of_act {a : Action} {result : Except BridgeError Unit}
    (e : b.act token a h = .ok result h') : IssuedOnce b token a h h' := by
  have ended := acted b token a h
  rw [e] at ended
  have once {c : Command} (issued : Issued b token a.arguments a.mode c h h') :
      IssuedOnce b token a h h' := by
    simp only [IssuedOnce, issued.idle, Bool.false_eq_true, if_false]
    exact ⟨c, issued.commands, issued.argv⟩
  cases ended with
  | refused raised => simp only [IssuedOnce, raised, if_true]
  | succeeded issued => exact once issued
  | cancelled issued => exact once issued
  | failed issued => exact once issued

theorem IssuedOnce.write {a : Action} {h₁ : Host} (once : IssuedOnce b token a h h₁)
    (commands : h'.commands = h₁.commands) : IssuedOnce b token a h h' := by
  unfold IssuedOnce at *
  rw [commands]
  exact once

theorem close_closed (isClosed : t.enabled = false) :
    t.close b token serial h = .ok (.error .notOpen, t) h := by
  unfold close
  simp only [isClosed, Bool.not_false, if_true]
  rfl

theorem says_noteClosed (direction : Direction) (port : Nat) (result : Except BridgeError Unit) :
    Says (noteClosed direction port result) := by
  cases result with
  | ok => exact says_note _ _
  | error e => exact says_noteUndoFailure direction e

/-- How closing an open tunnel ends, whoever owns its socket. -/
inductive Removing (b : Bridge) (token : String) (removal : Action) (t : Tunnel) (h : Host) :
    EStateM.Result Halt Host (Except Misuse (Except BridgeError Unit) × Tunnel) → Prop
  /-- The removal left `h₁`, and then the socket of the tunnel was closed. -/
  | closed {result : Except BridgeError Unit} {h₁ h' : Host} : IssuedOnce b token removal h h' →
      Undisturbed h h₁ → Fewer h h' → (∀ id l, t.listener? = some id →
        h₁.sockets id = .listener l → h'.sockets id = .unconnected) →
      Removing b token removal t h
        (.ok (.ok result, { t with enabled := false, listener? := none }) h')
  /-- The removal runs, and nothing is left that would end it. -/
  | halted {c : Command} {halt : Halt} {h' : Host} : h.interrupted token = false →
      h'.commands = c :: h.commands → c.argv = b.argv removal.arguments → Running c h' →
      Removing b token removal t h (.error halt h')

theorem registration?_eq_some {serial₀ : String} {a : Action} :
    t.registration? serial₀ = some a ↔ t.enabled = true ∧
      (t.direction = .reverse ∧ a = .reverse serial₀ t.socket t.localPort ∨
        t.direction = .forward ∧ a = .forward serial₀ t.localPort t.socket) := by
  cases on : t.enabled <;> cases directed : t.direction <;>
    simp [registration?, direction?, on, directed, eq_comm]

theorem fewer_note (events : List Event) (h : Host) : Fewer h { h with events := events } :=
  Undisturbed.fewer (SameWorld.quiet (by constructor <;> rfl)).toUndisturbed

/-- What releasing an open tunnel comes to, before that is reported. -/
inductive Releasing (b : Bridge) (token : String) (removal : Action) (t : Tunnel) (h : Host) :
    EStateM.Result Halt Host (Except BridgeError Unit × Option Nat) → Prop
  | released {result : Except BridgeError Unit} {h₁ h' : Host} : IssuedOnce b token removal h h' →
      Undisturbed h h₁ → Fewer h h' → (∀ id l, t.listener? = some id →
        h₁.sockets id = .listener l → h'.sockets id = .unconnected) →
      Releasing b token removal t h (.ok (result, none) h')
  | halted {c : Command} {halt : Halt} {h' : Host} : h.interrupted token = false →
      h'.commands = c :: h.commands → c.argv = b.argv removal.arguments → Running c h' →
      Releasing b token removal t h (.error halt h')

theorem halted_of_act {a : Action} {halt : Halt} (e : b.act token a h = .error halt h')
    (t : Tunnel) : Releasing b token a t h (.error halt h') := by
  have ended := acted b token a h
  rw [e] at ended
  cases ended with
  | halted issued running => exact .halted issued.idle issued.commands issued.argv running

/-- A tunnel in forward direction, which owns no socket, only has its registration taken back. -/
theorem releasing_forward (directed : t.direction = .forward) (unowned : t.listener? = none)
    (h : Host) : Releasing b token (.forwardRemove serial t.localPort) t h
      (t.release b token serial h) := by
  unfold release
  simp only [directed, unowned]
  rw [Act.bind_apply]
  cases e : b.act token (.forwardRemove serial t.localPort) h with
  | error halt h₁ => exact halted_of_act e t
  | ok result h₁ =>
    have same : Undisturbed h h₁ := undisturbed_of_commanding ((within_act b _).ok e)
    exact .released (issuedOnce_of_act e) same same.fewer (by simp [unowned])

/-- The socket of a tunnel in reverse direction is closed whatever came of the removal. -/
theorem releasing_reverse (directed : t.direction = .reverse) (h : Host) :
    Releasing b token (.reverseRemove serial t.socket) t h (t.release b token serial h) := by
  unfold release
  simp only [directed]
  rw [Act.bind_apply]
  cases e : b.act token (.reverseRemove serial t.socket) h with
  | error halt h₁ => exact halted_of_act e t
  | ok result h₁ =>
    have same : Undisturbed h h₁ := undisturbed_of_commanding ((within_act b _).ok e)
    dsimp only
    cases owned : t.listener? with
    | none => exact .released (issuedOnce_of_act e) same same.fewer (by simp [owned])
    | some listener =>
      obtain ⟨text, closed⟩ : ∃ text, Net.close listener h₁ =
          .ok () ((h₁.note .debug text).closeSocket listener) := ⟨_, rfl⟩
      obtain ⟨sockets, eq⟩ := closeSocket_eq listener (h₁.note .debug text)
      simp only [Act.bind_apply, closed, Act.pure_apply]
      refine .released ((issuedOnce_of_act e).write (by rw [eq]; rfl)) same
        ((same.fewer.trans (fewer_note _ _)).trans (fewer_closeSocket listener _))
        fun id l own listens => ?_
      obtain rfl : listener = id := by simpa [owned] using own
      exact (closeSocket_listener (h := h₁.note .debug text) listens).1

/-- Closing an open tunnel takes its registration back. -/
theorem removing (b : Bridge) (token serial : String) (h : Host) {passage? : Option Passage}
    (represents : t.Represents passage?) {serial₀ : String} {a : Action}
    (registration : t.registration? serial₀ = some a) :
    ∃ removal, a.undo? serial = some removal ∧
      Removing b token removal t h (t.close b token serial h) := by
  obtain ⟨on, directed⟩ := registration?_eq_some.mp registration
  obtain ⟨removal, undo, releasing⟩ : ∃ removal, a.undo? serial = some removal ∧
      Releasing b token removal t h (t.release b token serial h) := by
    obtain ⟨reversed, rfl⟩ | ⟨forward, rfl⟩ := directed
    · exact ⟨_, rfl, releasing_reverse reversed h⟩
    · exact ⟨_, rfl, releasing_forward forward (represents.unowned forward) h⟩
  refine ⟨removal, undo, ?_⟩
  unfold close
  simp only [on, Bool.not_true, Bool.false_eq_true, if_false]
  rw [Act.bind_apply]
  generalize t.release b token serial h = run at releasing
  cases releasing with
  | halted idle commands argv running => exact .halted idle commands argv running
  | @released result h₁ h' once same fewer gone =>
    obtain ⟨h₂, reported, quiet⟩ := says_noteClosed t.direction t.localPort result h'
    simp only [Act.bind_apply, reported, Act.pure_apply]
    exact .closed (once.write quiet.commands) same (fewer.trans quiet.toUndisturbed.fewer)
      fun id l own listens => quiet.unconnected id (gone id l own listens)

/-- Closing a tunnel that owns its socket frees the socket and its port. -/
theorem closing (b : Bridge) (token serial : String)
    {passage? : Option Passage} (represents : t.Represents passage?)
    (owned : ∀ id, t.listener? = some id → Owned id h) {serial₀ : String} {a : Action}
    (registration : t.registration? serial₀ = some a) :
    ∃ removal, a.undo? serial = some removal ∧
      Closing b token removal t h (t.close b token serial h) := by
  obtain ⟨removal, undo, removed⟩ := removing b token serial h represents registration
  refine ⟨removal, undo, ?_⟩
  generalize t.close b token serial h = run at removed
  cases removed with
  | halted idle commands argv running => exact .halted idle commands argv running
  | closed once same fewer gone =>
    refine .closed once fun id own => ?_
    have mine : Owned id h := owned id own
    obtain ⟨l, listener⟩ := mine.listener
    have gone := gone id l own (same.untouched id l mine.unarmed listener)
    refine ⟨gone, fun p listens => ?_⟩
    exact ((mine.reserved listens).fewer fewer).isListening (by rw [gone]; rfl)

theorem tolerant_coherent : Tolerant fun h h' => Coherent h → Coherent h' :=
  ⟨fun _ _ world before => before.undisturbed world.quiet.toUndisturbed,
    fun name h before => before.undisturbed (quiet_interrupt name h).toUndisturbed⟩

/-- Closing a tunnel is made of steps through the token. -/
theorem within_close (t : Tunnel) (b : Bridge) (token serial : String) :
    Act.Within (Step token) (t.close b token serial) :=
  (compositional_within (tolerant_step token)).close (within_reachLatest (tolerant_step token)) t
    (fun a _ _ => (within_act b a).step)
    fun listener => within_netClose (tolerant_step token) (.closeSocket listener)

theorem coherent_of_close {result : Except Misuse (Except BridgeError Unit) × Tunnel}
    (e : t.close b token serial h = .ok result h') (coherent : Coherent h) : Coherent h' := by
  have closes (listener : Nat) (h : Host) (before : Coherent h) :
      Coherent (h.closeSocket listener) := by
    obtain ⟨sockets, eq⟩ := closeSocket_eq listener h
    rw [eq]
    exact before
  have course : Act.Within (fun h h' => Coherent h → Coherent h') (t.close b token serial) :=
    (compositional_within tolerant_coherent).close (within_reachLatest tolerant_coherent) t
      (fun a _ _ => (within_act b a).mono fun _ _ step before =>
        before.undisturbed step.undisturbed)
      fun listener => within_netClose tolerant_coherent (closes listener)
  have run := course.ok e
  clear e
  induction run with
  | refl => exact coherent
  | tail _ step ih => exact step ih

/-- A tunnel that was opened leads through what its last command registered. -/
theorem Kept.opened {socket : String} {last? : Option Command} {range : PortRange}
    {forceForward : Bool} {t' : Tunnel} (kept : Kept socket t h last?)
    (returned : t.establish b token serial range forceForward h = .ok (.ok (.ok ()), t') h') :
    Kept socket t' h' h'.commands.head? := by
  cases isOpen : t.enabled with
  | true =>
    rw [establish_open isOpen] at returned
    cases returned
  | false =>
    obtain ⟨issued, outcome, commands, coherent, settlement, ending⟩ :=
      establish_settles isOpen returned
    have latest : h'.commands.head? = (issued.reverse ++ h.commands).head? := by rw [commands]
    cases settlement with
    | failed => cases ending.1
    | @reverse port listener c last registered owned =>
      obtain ⟨-, rfl⟩ := ending
      refine ⟨kept.same, ⟨_, represents_through _ _⟩, coherent kept.coherent, fun id own => ?_,
        fun _ => ⟨c, b, serial, _, by simp [latest, last], rfl, registered⟩⟩
      obtain rfl : listener = id := Option.some.inj own
      exact owned kept.coherent
    | @forward port c last registered =>
      obtain ⟨-, rfl⟩ := ending
      exact ⟨kept.same, ⟨_, represents_through _ _⟩, coherent kept.coherent, nofun,
        fun _ => ⟨c, b, serial, _, by simp [latest, last], rfl, registered⟩⟩

/-- A tunnel that was not opened is as it was. -/
theorem Kept.notOpened {socket : String} {last? : Option Command} {range : PortRange}
    {forceForward : Bool} {result : Except Misuse (Except TunnelError Unit)} {t' : Tunnel}
    (kept : Kept socket t h last?) (failed : result ≠ .ok (.ok ()))
    (returned : t.establish b token serial range forceForward h = .ok (result, t') h') :
    Kept socket t' h' last? := by
  cases isOpen : t.enabled with
  | true =>
    rw [establish_open isOpen] at returned
    cases returned
    exact kept
  | false =>
    obtain ⟨-, outcome, -, coherent, -, ending⟩ := establish_settles isOpen returned
    cases outcome with
    | ok passage => exact absurd ending.1 failed
    | error e =>
      obtain ⟨-, rfl⟩ := ending
      obtain ⟨passage?, represents⟩ := kept.represents
      have unowned : t'.listener? = none := by
        cases represents with
        | disabled _ unowned => exact unowned
        | reverse on => simp [isOpen] at on
        | forward on => simp [isOpen] at on
      exact ⟨kept.same, ⟨_, represents⟩, coherent kept.coherent, by simp [unowned],
        by simp [isOpen]⟩

theorem Kept.closed {socket : String} {last? : Option Command}
    {result : Except Misuse (Except BridgeError Unit)} {t' : Tunnel}
    (kept : Kept socket t h last?) (returned : t.close b token serial h = .ok (result, t') h') :
    Kept socket t' h' last? := by
  cases isOpen : t.enabled with
  | true =>
    obtain ⟨passage?, represents⟩ := kept.represents
    obtain ⟨c, b₀, serial₀, a, -, registration, -⟩ := kept.registered isOpen
    obtain ⟨removal, -, ended⟩ := closing b token serial represents kept.owned registration
    have coherent := coherent_of_close returned kept.coherent
    rw [returned] at ended
    cases ended with
    | closed => exact ⟨kept.same, ⟨_, .disabled rfl rfl⟩, coherent, nofun, nofun⟩
  | false =>
    rw [close_closed isOpen] at returned
    cases returned
    exact kept

/-- Every event in the life of a tunnel preserves what is kept. -/
theorem Life.kept {socket : String} {last? : Option Command} (life : Life socket t h last?) :
    Kept socket t h last? := by
  induction life with
  | fresh coherent => exact ⟨rfl, ⟨_, .disabled rfl rfl⟩, coherent, nofun, nofun⟩
  | opened b token serial range forceForward life returned kept => exact kept.opened returned
  | notOpened b token serial range forceForward life failed returned kept =>
    exact kept.notOpened failed returned
  | closed b token serial life returned kept => exact kept.closed returned
  | @elsewhere t h h' last? life elsewhere kept =>
    refine ⟨kept.same, kept.represents, elsewhere.coherent kept.coherent,
      fun id own => elsewhere.owned (kept.owned id own), fun isOpen => ?_⟩
    obtain ⟨c, b, serial, a, last, registration, registered⟩ := kept.registered isOpen
    exact ⟨c, b, serial, a, last, registration, registered.onward (elsewhere.onward "")⟩

/-- What holds of a tunnel and its host, of what it is and of what the next call does. -/
structure Sound (socket : String) (t : Tunnel) (h : Host) (last? : Option Command) : Prop where
  same : t.socket = socket
  /-- Its fields agree. -/
  represents : ∃ passage?, t.Represents passage?
  /-- It owns a socket exactly in reverse direction. -/
  reverse : t.listener?.isSome = true ↔ t.direction? = some .reverse
  direction : t.direction?.isSome = t.enabled
  port : t.port?.isSome = t.enabled
  owned : ∀ id, t.listener? = some id → Owned id h
  /-- An open tunnel cannot be opened. -/
  whileOpen : t.enabled = true → ∀ b token serial range forceForward,
    t.establish b token serial range forceForward h = .ok (.error .alreadyOpen, t) h
  /-- It was opened by a command that succeeded, and to close it takes that back. -/
  toClose : t.enabled = true → ∃ c b serial a, last? = some c ∧
    t.registration? serial = some a ∧ Registered b a c h ∧
    ∀ b' token serial', ∃ removal, a.undo? serial' = some removal ∧
      Closing b' token removal t h (t.close b' token serial' h)
  /-- A closed tunnel cannot be closed. -/
  whileClosed : t.enabled = false → ∀ b token serial,
    t.close b token serial h = .ok (.error .notOpen, t) h
  /-- A closed tunnel can always be opened. -/
  toOpen : t.enabled = false → ∀ b token serial range forceForward result t' h',
    t.establish b token serial range forceForward h = .ok (result, t') h' →
    ∃ outcome, result = .ok outcome ∧ (t'.enabled = true ↔ outcome = .ok ())

/-- In every reachable state the fields of a tunnel agree, and every call does what the last
successful opening asks for. -/
theorem life_sound {socket : String} {last? : Option Command} (life : Life socket t h last?) :
    Sound socket t h last? := by
  have kept := life.kept
  obtain ⟨passage?, represents⟩ := kept.represents
  refine ⟨kept.same, kept.represents, represents.owns, ?_, ?_, kept.owned, ?_, ?_, ?_, ?_⟩
  · cases on : t.enabled <;> simp [direction?, on]
  · cases on : t.enabled <;> simp [port?, on]
  · exact fun isOpen b token serial range forceForward => establish_open isOpen range forceForward h
  · intro isOpen
    obtain ⟨c, b, serial, a, last, registration, registered⟩ := kept.registered isOpen
    exact ⟨c, b, serial, a, last, registration, registered, fun b' token serial' =>
      closing b' token serial' represents kept.owned registration⟩
  · exact fun isClosed b token serial => close_closed isClosed
  · intro isClosed b token serial range forceForward result t' h' returned
    obtain ⟨issued, outcome, -, -, settlement, ending⟩ := establish_settles isClosed returned
    cases settlement with
    | failed =>
      obtain ⟨rfl, rfl⟩ := ending
      exact ⟨_, rfl, by simp [isClosed]⟩
    | reverse =>
      obtain ⟨rfl, rfl⟩ := ending
      exact ⟨_, rfl, by simp [through]⟩
    | forward =>
      obtain ⟨rfl, rfl⟩ := ending
      exact ⟨_, rfl, by simp [through]⟩

/-- A tunnel was opened in reverse direction, and then the token was interrupted. -/
theorem life_sound_interrupted :
    let t : Tunnel := ⟨"mirror", true, .reverse, some 0, 5000⟩
    ∃ h last?, Life "mirror" t h last? ∧ h.interrupted "work" = true ∧
      Sound "mirror" t h last? := by
  intro t
  have run : Act.returned? (establish { socket := "mirror" } {} "work" "phone"
      (.single 5000 (by decide)) false) { backend := fun _ _ => {} } =
        some (.ok (.ok ()), t) := by decide
  have opened := Life.opened {} "work" "phone" (.single 5000 (by decide)) false
    (.fresh fun name id held => by simp at held) (Act.of_returned? run)
  have life := opened.elsewhere (.interrupt "work" _)
  exact ⟨_, _, life, interrupted_interrupt "work" _, life_sound life⟩

end Tunnel
end DebugBridge
