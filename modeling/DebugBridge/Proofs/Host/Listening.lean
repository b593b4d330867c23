import DebugBridge.Proofs.Host.Supply

/-!
# Beginning to listen

A call that begins to listen always returns. It opens one socket, unless that is refused, which
listens exactly when the call gives it, and leaves every other socket alone; the token holds nothing
afterwards. An interrupt can only shut the new socket or one that some token was armed with.
-/

namespace DebugBridge.Host

open Cancel

/-- Between the two hosts one socket was opened, and only the token may be armed with it. -/
structure OneMore (token : String) (h h' : Host) : Prop where
  backend : h'.backend = h.backend
  clockEnd? : h'.clockEnd? = h.clockEnd?
  strikes : h'.strikes.Sublist h.strikes
  taken : h'.taken = h.taken
  commands : h'.commands = h.commands
  childCount : h'.childCount = h.childCount
  socketCount : h'.socketCount = h.socketCount + 1
  flags : ∀ name, h.interrupted name = true → h'.interrupted name = true
  outcomes : ∀ id o, (h.children id).outcome? = some o → (h'.children id).outcome? = some o
  listens : ∀ id p, id ≠ h.socketCount → (h'.sockets id).listensOn p = true →
    (h.sockets id).listensOn p = true
  held : ∀ name id, (h'.tokens name).armed = some (.socket id) →
    (h.tokens name).armed = some (.socket id) ∨ name = token ∧ id = h.socketCount
  untouched : ∀ id l, id ≠ h.socketCount → (∀ name, (h.tokens name).armed ≠ some (.socket id)) →
    h.sockets id = .listener l → h'.sockets id = .listener l

/-- A new socket that came of some requests. -/
theorem oneMore_supplied (token : String) (operations : List String) (h : Host) :
    OneMore token h ((h.supplied operations).addSocket .unconnected).2 where
  backend := rfl
  clockEnd? := rfl
  strikes := .refl _
  taken := rfl
  commands := rfl
  childCount := rfl
  socketCount := rfl
  flags _ e := e
  outcomes _ _ e := e
  listens id p ne e := by simpa [addSocket, supplied, ne] using e
  held _ _ e := .inl e
  untouched id l ne _ e := by simpa [addSocket, supplied, ne] using e

theorem sameWorld_supplied (operations : List String) (h : Host) :
    SameWorld h (h.supplied operations) := by
  constructor <;> rfl

theorem OneMore.quiet {token : String} {h h₁ h₂ : Host} (more : OneMore token h h₁)
    (quiet : Quiet h₁ h₂) : OneMore token h h₂ where
  backend := quiet.backend.trans more.backend
  clockEnd? := quiet.clockEnd?.trans more.clockEnd?
  strikes := quiet.strikes.trans more.strikes
  taken := quiet.taken.trans more.taken
  commands := quiet.commands.trans more.commands
  childCount := quiet.childCount.trans more.childCount
  socketCount := quiet.socketCount.trans more.socketCount
  flags name e := quiet.flags name (more.flags name e)
  outcomes id o e := quiet.outcomes id o (more.outcomes id o e)
  listens id p ne e := more.listens id p ne (quiet.listens id p e)
  held name id e := more.held name id (quiet.held name id e)
  untouched id l ne free e := by
    refine quiet.untouched id l (fun name armed => ?_) (more.untouched id l ne free e)
    obtain old | ⟨-, own⟩ := more.held name id armed
    · exact free name old
    · exact ne own

theorem OneMore.arm {token : String} {h h₁ : Host} (more : OneMore token h h₁)
    (idle : h₁.interrupted token = false) :
    OneMore token h (h₁.updateToken token fun t => (t.arm (.socket h.socketCount)).2) where
  backend := more.backend
  clockEnd? := more.clockEnd?
  strikes := more.strikes
  taken := more.taken
  commands := more.commands
  childCount := more.childCount
  socketCount := more.socketCount
  flags name e := (interrupted_updateToken (Token.interrupted_arm _ _)).trans (more.flags name e)
  outcomes := more.outcomes
  listens := more.listens
  held name id e := by
    by_cases eq : name = token
    · subst eq
      have idle : (h₁.tokens name).interrupted = false := idle
      simp [updateToken, idle] at e
      exact .inr ⟨rfl, e.symm⟩
    · exact more.held name id (by simpa [updateToken, eq] using e)
  untouched := more.untouched

theorem OneMore.listen {token : String} {h h₁ : Host} (more : OneMore token h h₁) (l : Listener) :
    OneMore token h (h₁.updateSocket h.socketCount fun _ => .listener l) where
  backend := more.backend
  clockEnd? := more.clockEnd?
  strikes := more.strikes
  taken := more.taken
  commands := more.commands
  childCount := more.childCount
  socketCount := more.socketCount
  flags := more.flags
  outcomes := more.outcomes
  listens id p ne e := more.listens id p ne (by simpa [updateSocket, ne] using e)
  held := more.held
  untouched id l ne free e := by
    simpa [updateSocket, ne] using more.untouched id l ne free e

/-- Who listens where is a matter of the sockets and of what somebody else listens on. -/
theorem isListening_congr {h h' : Host} (taken : h'.taken = h.taken)
    (sockets : h'.sockets = h.sockets) (socketCount : h'.socketCount = h.socketCount) (p : Nat) :
    h'.isListening p = h.isListening p := by
  simp only [isListening, taken, sockets, socketCount]

/-- A new socket listens nowhere but where it is bound. -/
theorem isListening_addSocket (s : Socket) (h : Host) (p : Nat) :
    (h.addSocket s).2.isListening p = (h.isListening p || s.listensOn p) := by
  have old : ∀ id ∈ List.range h.socketCount,
      ((h.addSocket s).2.sockets id).listensOn p = (h.sockets id).listensOn p := by
    intro id mem
    have ne : id ≠ h.socketCount := Nat.ne_of_lt (List.mem_range.mp mem)
    simp [addSocket, ne]
  have count : (h.addSocket s).2.socketCount = h.socketCount + 1 := rfl
  have any : (List.range h.socketCount).any (fun id =>
      ((h.addSocket s).2.sockets id).listensOn p) =
      (List.range h.socketCount).any fun id => (h.sockets id).listensOn p := by
    rw [Bool.eq_iff_iff]
    simp only [List.any_eq_true]
    exact exists_congr fun id => and_congr_right fun mem => by rw [old id mem]
  unfold isListening
  rw [count, List.range_succ, List.any_append, any]
  simp [addSocket, Bool.or_assoc]

/-- Which ports are granted depends on nothing but on which ports somebody listens. -/
theorem grantedPort?_congr {h h' : Host} (listening : ∀ p, h'.isListening p = h.isListening p)
    (p : Nat) : h'.grantedPort? p = h.grantedPort? p := by
  simp only [grantedPort?, ephemeralPort?, listening]

/-- The port that is granted is the one asked for, or one of the system's own for port zero. -/
theorem grantedPort?_eq {port granted : Nat} {h : Host} (e : h.grantedPort? port = some granted) :
    (port ≠ 0 → granted = port) ∧ h.isListening granted = false := by
  unfold grantedPort? at e
  split at e
  · next zero => exact ⟨fun ne => absurd zero ne, by simpa using List.find?_some e⟩
  · split at e
    · simp at e
    · next free =>
      obtain rfl := Option.some.inj e
      exact ⟨fun _ => rfl, by simpa using free⟩

/-- A socket that asks for port zero gets one of the system's own. -/
theorem grantedPort?_zero {granted : Nat} {h : Host} (e : h.grantedPort? 0 = some granted) :
    firstEphemeral ≤ granted := by
  simp only [grantedPort?, if_true, ephemeralPort?] at e
  have mem := List.mem_of_find?_eq_some e
  rw [List.mem_range'_1] at mem
  exact mem.1

/-- The ways in which a call that begins to listen ends. -/
inductive Listened (token : String) (port : Nat) (h : Host) :
    EStateM.Result Halt Host (Except NetError Nat) → Prop where
  /-- The system refused what the call needs. -/
  | denied {e : NetError} : h.granted Net.listenRequests (.loopback port) = .error e →
      Listened token port h (.ok (.error e) (h.opened Net.listenRequests))
  /-- The token was interrupted before. -/
  | refused {h' : Host} : h.interrupted token = true → OneMore token h h' →
      (∀ name, (h'.tokens name).armed = (h.tokens name).armed) →
      (∀ p, (h'.sockets h.socketCount).listensOn p = false) →
      Listened token port h (.ok (.error .interrupted) h')
  | opened {h' : Host} {granted : Nat} : h.interrupted token = false →
      h.grantedPort? port = some granted → OneMore token h h' → (h'.tokens token).armed = none →
      (h'.sockets h.socketCount).endpoint = .loopback granted →
      (h.Unstruck .listen → h'.interrupted token = false) →
      Listened token port h (.ok (.ok h.socketCount) h')
  /-- The port is taken. -/
  | failed {h' : Host} {e : NetError} : h.interrupted token = false →
      h.grantedPort? port = none → OneMore token h h' → (h'.tokens token).armed = none →
      (∀ p, (h'.sockets h.socketCount).listensOn p = false) →
      Listened token port h (.ok (.error e) h')

end DebugBridge.Host

namespace DebugBridge

open Host Cancel

theorem runArmed_refused {α : Type} {token : String} {socket : Nat} {operation : String}
    {endpoint : Endpoint} {call : Act (Except Fault α)} {h : Host}
    (raised : h.interrupted token = true) :
    runArmed token socket operation endpoint call h = .ok (.error .interrupted) h := by
  unfold runArmed
  rw [Act.bind_apply, arm_interrupted raised]
  rfl

/-- What becomes of a call's own result: only a failure after an interrupt counts as the interrupt.
-/
def NetError.judge {α : Type} (operation : String) (endpoint : Endpoint) (raised : Bool) :
    Except Fault α → Except NetError α
  | .ok value => .ok value
  | .error cause => .error (if raised then .interrupted else .io operation endpoint cause)

/-- A call that returns while its socket is armed is judged by its own result and by the token as it
is then. -/
theorem runArmed_apply {α : Type} (socket : Nat) (operation : String) (endpoint : Endpoint)
    (call : Act (Except Fault α)) {token : String} {h : Host}
    (idle : h.interrupted token = false) :
    runArmed token socket operation endpoint call h =
      match call (h.armedWith token (.socket socket)) with
      | .ok result h' => .ok (NetError.judge operation endpoint (h'.interrupted token) result)
          (h'.updateToken token Token.disarm)
      | .error halt h' => .error halt h' := by
  unfold runArmed
  rw [Act.bind_apply, arm_apply idle]
  simp only [if_true]
  rw [Act.bind_apply]
  cases call (h.armedWith token (.socket socket)) with
  | error halt h' => rfl
  | ok result h' =>
    have kept : (h'.updateToken token Token.disarm).interrupted token = h'.interrupted token :=
      interrupted_updateToken (Token.interrupted_disarm _)
    simp only [Act.bind_apply, disarm, Act.modify_apply]
    cases result with
    | ok value => rfl
    | error cause =>
      simp only [NetError.judge, Act.bind_apply, Act.isInterrupted_apply, kept]
      cases h'.interrupted token <;> rfl

theorem claimPort_granted {port granted : Nat} {h : Host} (socket : Nat)
    (e : h.grantedPort? port = some granted) :
    ∃ h', Net.claimPort socket port h = .ok (.ok ()) h' ∧
      Quiet (h.updateSocket socket fun _ => .listener { endpoint := .loopback granted }) h' ∧
      (h.Unstruck .listen → h'.tokens = h.tokens) := by
  have bound : h.bindTo socket port = (.ok (),
      h.updateSocket socket fun _ => .listener { endpoint := .loopback granted }) := by
    simp only [bindTo, e]
  have struck := strike_within (tolerant_tending "" 0) h.commands.length .listen
    (h.updateSocket socket fun _ => .listener { endpoint := .loopback granted })
  refine ⟨_, ?_, quiet_of_tended struck, fun unstruck => ?_⟩
  · simp only [Net.claimPort, Act.bind_apply, Act.modifyGet_apply, bound, Act.modify_apply,
      Act.pure_apply]
    rfl
  · rw [strike_unstruck (h := h.updateSocket socket _) unstruck]
    rfl

theorem claimPort_refused {port : Nat} {h : Host} (socket : Nat) (e : h.grantedPort? port = none) :
    ∃ h', Net.claimPort socket port h = .ok (.error .addressInUse) h' ∧ Quiet h h' := by
  have bound : h.bindTo socket port = (.error .addressInUse, h) := by simp only [bindTo, e]
  have struck := strike_within (tolerant_tending "" 0) h.commands.length .listen h
  refine ⟨_, ?_, quiet_of_tended struck⟩
  simp only [Net.claimPort, Act.bind_apply, Act.modifyGet_apply, bound, Act.modify_apply,
    Act.pure_apply]

/-- Once nothing was refused, the new socket listens or the call fails. -/
theorem listened_of_granted {token : String} {port : Nat} {h : Host}
    (ok : h.granted Net.listenRequests (.loopback port) = .ok ()) :
    Listened token port h
      (Net.listenOn token h.socketCount port (h.opened Net.listenRequests)) := by
  have more := oneMore_supplied token Net.listenRequests h
  have opening : h.opened Net.listenRequests =
      ((h.supplied Net.listenRequests).addSocket .unconnected).2 := opened_granted ok
  rw [opening]
  generalize opened : ((h.supplied _).addSocket .unconnected).2 = h₁ at more ⊢
  unfold Net.listenOn
  rw [Act.bind_apply]
  have unbound : h₁.sockets h.socketCount = .unconnected := by
    simp [← opened, addSocket, supplied]
  cases idle : h.interrupted token with
  | true =>
    rw [runArmed_refused (more.flags token idle)]
    exact .refused idle more (fun name => by rw [← opened]; rfl) (fun p => by rw [unbound]; rfl)
  | false =>
    have idle₁ : h₁.interrupted token = false := by rw [← idle, ← opened]; rfl
    rw [runArmed_apply h.socketCount "listen on" (.loopback port) _ idle₁]
    generalize arming : h₁.armedWith token (.socket h.socketCount) = h₂
    have more₂ : OneMore token h h₂ := by
      have world : SameWorld h₁ { h₁ with events := h₁.rearming token ++ h₁.events } := by
        constructor <;> rfl
      rw [← arming]
      exact (more.quiet world.quiet).arm idle₁
    have granted₂ : h₂.grantedPort? port = h.grantedPort? port := by
      refine grantedPort?_congr (fun p => ?_) port
      rw [← arming, ← opened]
      exact (isListening_addSocket .unconnected h p).trans (Bool.or_false _)
    have unbound₂ : h₂.sockets h.socketCount = .unconnected := by rw [← unbound, ← arming]; rfl
    have disarm (h₃ : Host) : Quiet h₃ (h₃.updateToken token Token.disarm) :=
      quiet_updateToken (fun raised => raised) (fun _ held => by simp at held)
    have disarmed (h₃ : Host) :
        ((h₃.updateToken token Token.disarm).tokens token).armed = none := by simp [updateToken]
    cases granted : h.grantedPort? port with
    | none =>
      obtain ⟨h₃, claimed, quiet⟩ := claimPort_refused h.socketCount
        (granted₂.trans granted)
      rw [claimed]
      refine .failed idle granted ((more₂.quiet quiet).quiet (disarm h₃)) (disarmed h₃) fun p => ?_
      have silent : (h₂.sockets h.socketCount).listensOn p = false := by rw [unbound₂]; rfl
      exact Bool.eq_false_iff.mpr fun listens => by
        simp [quiet.listens _ p listens] at silent
    | some port' =>
      obtain ⟨h₃, claimed, quiet, same⟩ := claimPort_granted h.socketCount
        (granted₂.trans granted)
      rw [claimed]
      have more₃ := ((more₂.listen _).quiet quiet).quiet (disarm h₃)
      refine .opened idle granted (more₃.quiet (quiet_note _ _ _)) (disarmed h₃) ?_
        fun unstruck => ?_
      · exact (quiet.endpoints h.socketCount).trans (by simp [updateSocket, Socket.endpoint])
      · have unstruck₂ : h₂.Unstruck .listen := by
          rw [Unstruck, ← arming, ← opened]
          exact unstruck
        have idle₂ : h₂.interrupted token = false := by
          rw [← arming]
          exact (interrupted_updateToken (Token.interrupted_arm _ _)).trans idle₁
        have idle₃ : h₃.interrupted token = false := by
          rw [interrupted, same unstruck₂]
          exact idle₂
        exact (interrupted_updateToken (Token.interrupted_disarm _)).trans idle₃

/-- Every call that begins to listen ends in one of these ways. -/
theorem listened (token : String) (port : Nat) (h : Host) :
    Listened token port h (Net.listen token port h) := by
  rw [Net.listen_apply]
  cases asked : h.granted Net.listenRequests (.loopback port) with
  | error e => exact .denied asked
  | ok => exact listened_of_granted asked

end DebugBridge
