import DebugBridge.CommandLine.Run
import DebugBridge.Proofs.Composition
import DebugBridge.Proofs.Host.Ownership
import DebugBridge.Proofs.Host.SocketCalls

/-!
# Waiting for a connection

Whoever waits for a connection through a tunnel blocks, sleeps and opens sockets, but issues no
command and begins to listen nowhere. So nothing that was set up is lost on the way, however the
wait ends. An interrupt ends it: only a wait that nobody interrupts lasts for ever.
-/

namespace DebugBridge

open Host Cancel

/-- Waiting for a connection through a tunnel accepts it or makes attempts to connect. -/
theorem Compositional.awaitConnection {Q : {α : Type} → Act α → Prop} (rules : Compositional Q)
    {settings : Config.TunnelSettings} {t : Tunnel} (direction : Direction)
    (accepts : ∀ listener, Q (Net.accept workToken listener))
    (connects : ∀ port, Q (Net.connect workToken port))
    (receives : ∀ stream, Q (Net.receive workToken stream 1))
    (sleeps : ∀ duration, Q (sleep workToken duration)) :
    Q (CommandLine.awaitConnection settings t direction) := by
  cases direction with
  | reverse =>
    change Q (t.accept workToken)
    unfold Tunnel.accept
    split
    · exact rules.map _ (accepts _)
    · exact rules.pure _
  | forward =>
    change Q (t.connect workToken _ _)
    unfold Tunnel.connect
    split
    · exact rules.connectWith (connects _) receives (sleeps _) _ _
    · exact rules.pure _

namespace Host

/-- No command was issued, no socket began to listen, and every socket is bound where it was. -/
structure Awaited (h h' : Host) : Prop extends Fewer h h' where
  endpoints : ∀ id, id < h.socketCount → (h'.sockets id).endpoint = (h.sockets id).endpoint
  commands : h'.commands = h.commands
  flags : ∀ name, h.interrupted name = true → h'.interrupted name = true

theorem Awaited.trans {h₁ h₂ h₃ : Host} (a : Awaited h₁ h₂) (b : Awaited h₂ h₃) :
    Awaited h₁ h₃ where
  toFewer := a.toFewer.trans b.toFewer
  endpoints id lt :=
    (b.endpoints id (Nat.lt_of_lt_of_le lt a.socketCount)).trans (a.endpoints id lt)
  commands := b.commands.trans a.commands
  flags name raised := b.flags name (a.flags name raised)

theorem Quiet.awaited {h h' : Host} (quiet : Quiet h h') : Awaited h h' :=
  ⟨quiet.toUndisturbed.fewer, fun id _ => quiet.endpoints id, quiet.commands, quiet.flags⟩

theorem tolerant_awaited : Tolerant Awaited :=
  ⟨fun _ _ world => world.quiet.awaited, fun name h => (quiet_interrupt name h).awaited⟩

theorem awaited_of_run {h h' : Host} (run : Relation.ReflTransGen Awaited h h') : Awaited h h' := by
  induction run with
  | refl => exact (Quiet.refl h).awaited
  | tail _ step ih => exact ih.trans step

/-- What changes only sockets, and none of them to listen, is part of waiting. -/
theorem awaited_updateSocket (id : Nat) (f : Socket → Socket) (h : Host)
    (endpoint : (f (h.sockets id)).endpoint = (h.sockets id).endpoint)
    (listens : ∀ p, (f (h.sockets id)).listensOn p = true → (h.sockets id).listensOn p = true) :
    Awaited h (h.updateSocket id f) where
  taken := rfl
  socketCount := Nat.le_refl _
  endpoints other _ := by
    by_cases eq : other = id
    · subst eq
      simpa [updateSocket] using endpoint
    · simp [updateSocket, eq]
  listens other p lt listening := by
    refine ⟨lt, ?_⟩
    by_cases eq : other = id
    · subst eq
      exact listens p (by simpa [updateSocket] using listening)
    · simpa [updateSocket, eq] using listening
  commands := rfl
  flags _ raised := raised

/-- A new socket that does not listen is part of waiting. -/
theorem awaited_addSocket {s : Socket} (silent : ∀ p, s.listensOn p = false) (h : Host) :
    Awaited h (h.addSocket s).2 where
  taken := rfl
  socketCount := Nat.le_succ _
  endpoints id lt := by simp [addSocket, Nat.ne_of_lt lt]
  listens id p lt listening := by
    have opened : id < h.socketCount + 1 := lt
    by_cases eq : id = h.socketCount
    · simp [addSocket, eq, silent] at listening
    · exact ⟨by omega, by simpa [addSocket, eq] using listening⟩
  commands := rfl
  flags _ raised := raised

theorem awaited_updateStream (socket : Nat) (f : Stream → Stream) (h : Host) :
    Awaited h (h.updateStream socket f) := by
  apply awaited_updateSocket
  · cases h.sockets socket <;> rfl
  · cases h.sockets socket <;> exact fun _ => id

theorem awaited_closeStream (socket : Nat) (h : Host) : Awaited h (h.closeStream socket) := by
  unfold closeStream
  split
  · split
    · exact (Quiet.refl h).awaited
    · exact (awaited_updateStream _ _ h).trans (awaited_updateStream _ _ _)
  · exact (Quiet.refl h).awaited

/-- Whoever is at the other end of a new connection listens nowhere. -/
theorem awaited_meet (socket : Nat) (p : Peer) (h : Host) : Awaited h (h.meet socket p) := by
  have linked (h : Host) (far : Nat) : Awaited h (h.link socket far p.address?) := by
    apply awaited_updateSocket
    · cases h.sockets socket <;> rfl
    · cases h.sockets socket
      · exact nofun
      · exact fun _ => id
      · exact fun _ => id
  have delivered (h : Host) (far : Nat) : Awaited h (h.deliver far p.said) := by
    unfold deliver
    split
    · exact awaited_updateStream _ _ h
    · exact (Quiet.refl h).awaited
  have met := ((awaited_addSocket (fun _ => rfl) h).trans (linked _ h.socketCount)).trans
    (delivered ((h.addSocket (.stream { peer := socket })).2.link socket h.socketCount p.address?)
      h.socketCount)
  unfold meet
  dsimp only
  split
  · exact met
  · exact met.trans (awaited_closeStream h.socketCount _)

theorem awaited_takeWaiting (listener : Nat) (h : Host) : Awaited h (h.takeWaiting listener).2 := by
  have received (l : Listener) : Awaited h (h.receive l).2 := by
    unfold receive
    split
    · next port visitor later _ =>
      have expected : Awaited h { h with visitors := assign h.visitors port later } :=
        tolerant_awaited.write _ _ (by constructor <;> rfl)
      cases visitor with
      | error cause => exact expected
      | ok peer =>
        exact (expected.trans (awaited_addSocket (fun _ => rfl) _)).trans (awaited_meet _ peer _)
    · exact (Quiet.refl h).awaited
  unfold takeWaiting
  split
  · next l e =>
    split
    · next stream waiting _ =>
      exact awaited_updateSocket listener (fun _ => .listener { l with waiting := waiting }) h
        (by rw [e]; rfl) (by rw [e]; exact fun _ => id)
    · exact received l
  · exact (Quiet.refl h).awaited

theorem awaited_readFrom (socket max : Nat) (h : Host) : Awaited h (h.readFrom socket max).2 := by
  unfold readFrom
  split
  · next s e =>
    exact awaited_updateSocket socket (fun _ => .stream (s.read max).2) h (by rw [e]; rfl)
      (by rw [e]; exact fun _ => id)
  · exact (Quiet.refl h).awaited

theorem awaited_updateToken (token : String) {f : Token → Token} {h : Host}
    (kept : (f (h.tokens token)).interrupted = (h.tokens token).interrupted) :
    Awaited h (h.updateToken token f) where
  taken := rfl
  socketCount := Nat.le_refl _
  endpoints _ _ := rfl
  listens _ _ lt listening := ⟨lt, listening⟩
  commands := rfl
  flags _ raised := (interrupted_updateToken kept).trans raised

end Host

section calls
variable {α : Type} {token : String}

theorem armed_awaited {socket : Nat} {operation : String} {endpoint : Endpoint}
    {call : Act (Except Fault α)} (called : Act.Within Awaited call) :
    Act.Within Awaited (armed token socket operation endpoint call) :=
  (compositional_within tolerant_awaited).armed (within_answer tolerant_awaited)
    (within_arming tolerant_awaited fun _ _ =>
      awaited_updateToken token (Token.interrupted_arm _ _))
    (Act.within_modify fun _ => awaited_updateToken token (Token.interrupted_disarm _)) called

theorem accept_awaited (listener : Nat) : Act.Within Awaited (Net.accept token listener) :=
  (compositional_within tolerant_awaited).accept Act.within_get fun _ =>
    armed_awaited (within_taking tolerant_awaited (awaited_takeWaiting listener))

theorem netConnect_awaited (port : Nat) : Act.Within Awaited (Net.connect token port) :=
  (compositional_within tolerant_awaited).toSequential.connect (within_answer tolerant_awaited)
    (Act.within_modifyGet (awaited_addSocket fun _ => rfl)) fun socket =>
      armed_awaited (within_dial tolerant_awaited socket port (awaited_meet socket))

theorem receive_awaited (socket max : Nat) :
    Act.Within Awaited (Net.receive token socket max) :=
  (compositional_within tolerant_awaited).receive <|
    armed_awaited (within_taking tolerant_awaited (awaited_readFrom socket max))

/-- However long the program waits for the connection, and whatever comes of it. -/
theorem awaitConnection_awaited (settings : Config.TunnelSettings) (t : Tunnel)
    (direction : Direction) :
    Act.Within Awaited (CommandLine.awaitConnection settings t direction) :=
  (compositional_within tolerant_awaited).awaitConnection direction accept_awaited
    netConnect_awaited (receive_awaited · 1) (within_sleep tolerant_awaited workToken)

theorem reportConnection_ok (connection : Except TunnelError Nat) (h : Host) :
    ∃ stdout, CommandLine.reportConnection connection h = .ok () { h with stdout := stdout } := by
  cases connection with
  | error e => exact ⟨h.stdout, rfl⟩
  | ok stream =>
    simp only [CommandLine.reportConnection, Act.bind_apply, Act.get_apply]
    cases (h.sockets stream).peer? with
    | none => exact ⟨_, rfl⟩
    | some address => exact ⟨_, rfl⟩

end calls

/-! ### An interrupt ends the wait -/

/-- Whoever is blocked for ever in the activity was not interrupted. -/
def Act.Wakeful {α : Type} (token : String) (m : Act α) : Prop :=
  ∀ h h', m h = .error .forever h' → h'.interrupted token = false

section wakeful
variable {token : String}

theorem compositional_wakeful (token : String) : Compositional fun m => Act.Wakeful token m where
  pure _ _ _ blocked := nomatch blocked
  bind first rest h h' blocked := by
    obtain halted | ⟨a, h₁, -, further⟩ := Act.error_of_bind blocked
    · exact first h h' halted
    · exact rest a h₁ h' further
  isInterrupted _ _ _ blocked := nomatch blocked
  note _ _ _ _ blocked := nomatch blocked
  noteAll _ _ _ blocked := nomatch blocked

/-- What is true of every socket call. -/
theorem wakeful_call (c : Net.Call) : Act.Wakeful token (c.run token) := by
  intro h h' blocked
  have ran := Net.ran token c h
  rw [blocked] at ran
  cases ran with
  | halted _ _ _ idle => exact idle rfl

/-- A sleep has an end. -/
theorem wakeful_sleep (duration : Nat) : Act.Wakeful token (sleep token duration) := by
  intro h h' blocked
  cases shown : h.shows (h.clock + duration) with
  | false => exact nomatch (sleep_panicked shown token).symm.trans blocked
  | true =>
    have dozed := dozed_sleep shown token
    rw [blocked] at dozed
    clear blocked shown
    generalize ended : (EStateM.Result.error .forever h' : EStateM.Result Halt Host Bool) = result
      at dozed
    generalize h.undertake (.nap duration) = h₁, h.clock + duration = deadline at dozed
    induction dozed with
    | interrupted => cases ended
    | elapsed => cases ended
    | exit woken =>
      cases ended
      cases (wake_exit woken).1
    | woken _ _ ih => exact ih ended

theorem awaitConnection_wakeful (settings : Config.TunnelSettings) (t : Tunnel)
    (direction : Direction) :
    Act.Wakeful workToken (CommandLine.awaitConnection settings t direction) :=
  (compositional_wakeful workToken).awaitConnection direction
    (fun listener => wakeful_call (.accept listener)) (fun port => wakeful_call (.connect port))
    (fun stream => wakeful_call (.receive stream 1)) wakeful_sleep

end wakeful
end DebugBridge
