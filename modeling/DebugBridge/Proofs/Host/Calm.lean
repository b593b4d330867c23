import DebugBridge.Proofs.Host.Listening

/-!
# Calls without interrupts

Where no strike is set, it can be said exactly what a call that does not block returns and what it
leaves behind.
-/

namespace DebugBridge

open Host Cancel

namespace Host

/-- Nothing struck, nothing was asked for and nobody else did anything. -/
structure Calmly (h h' : Host) : Prop where
  backend : h'.backend = h.backend
  strikes : h'.strikes = h.strikes
  taken : h'.taken = h.taken
  supply : h'.supply = h.supply
  flags : ∀ name, h'.interrupted name = h.interrupted name

theorem Calmly.trans {h₁ h₂ h₃ : Host} (a : Calmly h₁ h₂) (b : Calmly h₂ h₃) : Calmly h₁ h₃ where
  backend := b.backend.trans a.backend
  strikes := b.strikes.trans a.strikes
  taken := b.taken.trans a.taken
  supply := b.supply.trans a.supply
  flags name := (b.flags name).trans (a.flags name)

theorem calmly_record (child : Nat) (call : Call) (h : Host) : Calmly h (h.record child call) :=
  ⟨rfl, rfl, rfl, rfl, fun _ => rfl⟩

theorem calmly_updateToken (token : String) (f : Token → Token) {h : Host}
    (kept : (f (h.tokens token)).interrupted = (h.tokens token).interrupted) :
    Calmly h (h.updateToken token f) :=
  ⟨rfl, rfl, rfl, rfl, fun _ => interrupted_updateToken kept⟩

end Host

theorem wait_calm {child : Nat} {o : Outcome} {h : Host} (calm : h.strikes = [])
    (ended : (h.children child).outcome? = some o) (reap : Bool) :
    wait child reap h =
      .ok o (h.record child (if reap then .reap else .wait)) := by
  have reached (h₁ : Host) (calm₁ : h₁.strikes = []) (point : Point) :
      reach child point h₁ = .ok () h₁ := by
    unfold reach
    rw [Act.modify_apply]
    split
    · rw [strike_nil calm₁]
    · rfl
  have waited (h₁ : Host) (ended₁ : (h₁.children child).outcome? = some o) :
      (do
        awaitEnd child
        return ((← get).children child).outcome?.getD .unknown : Act Outcome) h₁ = .ok o h₁ := by
    rw [Act.bind_apply, awaitEnd, blockUntil_ready (by simp [Child.hasEnded, ended₁])]
    simp only [Act.bind_apply, Act.get_apply, Act.pure_apply, ended₁, Option.getD_some]
  unfold wait callChild
  rw [Act.bind_apply, Act.modify_apply]
  simp only
  rw [Act.bind_apply, reached (h.record child _) calm]
  cases reap with
  | false => exact waited (h.record child .wait) ended
  | true =>
    simp only [if_true]
    rw [Act.bind_apply, reached (h.record child .reap) calm]
    exact waited (h.record child .reap) ended

theorem claimPort_calm {socket port : Nat} {h : Host} (calm : h.strikes = []) :
    Net.claimPort socket port h = .ok (h.bindTo socket port).1 (h.bindTo socket port).2 := by
  obtain ⟨sockets, e⟩ := bindTo_eq socket port h
  have struck := strike_nil (h := (h.bindTo socket port).2) (by rw [e]; exact calm)
    (h.bindTo socket port).2.commands.length .listen
  simp only [Net.claimPort, Act.bind_apply, Act.modifyGet_apply, Act.modify_apply, Act.pure_apply,
    struck]

/-- What a call that begins to listen on a port gives: the new socket and its number, or why it does
not listen. -/
def openedListener (port socket : Nat) : Option Nat → Except NetError Nat × Socket
  | some granted => (.ok socket, .listener { endpoint := .loopback granted })
  | none => (.error (.io "listen on" (.loopback port) .addressInUse), .unconnected)

/-- Without interrupts a call that begins to listen, and is granted what it asks for, adds one
socket, which listens on the granted port if there is one. -/
theorem listen_calm (token : String) (port : Nat) {h : Host} (calm : h.strikes = [])
    (idle : h.interrupted token = false)
    (ok : h.granted Net.listenRequests (.loopback port) = .ok ()) :
    ∃ h', Net.listen token port h =
        .ok (openedListener port h.socketCount (h.grantedPort? port)).1 h' ∧
      h'.commands = h.commands ∧ Calmly (h.supplied Net.listenRequests) h' ∧
      h'.sockets = assign h.sockets h.socketCount
        (openedListener port h.socketCount (h.grantedPort? port)).2 ∧
      h'.socketCount = h.socketCount + 1 := by
  have opening : h.opened Net.listenRequests =
      ((h.supplied Net.listenRequests).addSocket .unconnected).2 := opened_granted ok
  rw [Net.listen_apply, ok, opening]
  generalize supplied : h.supplied Net.listenRequests = h₀
  have unbound : h₀.socketCount = h.socketCount := by rw [← supplied]; rfl
  have idle₁ : (h₀.addSocket .unconnected).2.interrupted token = false := by
    rw [← supplied]
    exact idle
  have judged := runArmed_apply h.socketCount "listen on" (.loopback port)
    (Net.claimPort h.socketCount port) idle₁
  generalize arming : (h₀.addSocket .unconnected).2.armedWith token (.socket h.socketCount) = h₁
    at judged
  have calmly : Calmly h₀ h₁ := by
    have opened : Calmly h₀ { (h₀.addSocket .unconnected).2 with
        events := (h₀.addSocket .unconnected).2.rearming token ++ h₀.events } :=
      ⟨rfl, rfl, rfl, rfl, fun _ => rfl⟩
    rw [← arming]
    exact opened.trans (calmly_updateToken token _ (Token.interrupted_arm _ _))
  have granted : h₁.grantedPort? port = h.grantedPort? port := by
    refine grantedPort?_congr (fun p => ?_) port
    rw [← arming, ← supplied]
    exact (isListening_addSocket .unconnected h p).trans (Bool.or_false _)
  have commands : h₁.commands = h.commands := by rw [← arming, ← supplied]; rfl
  have sockets : h₁.sockets = assign h.sockets h.socketCount .unconnected := by
    rw [← arming, ← supplied]
    rfl
  have socketCount : h₁.socketCount = h.socketCount + 1 := by rw [← arming, ← supplied]; rfl
  have flag : h₁.interrupted token = false := by
    rw [calmly.flags token, ← supplied]
    exact idle
  have disarmed (h₂ : Host) : Calmly h₂ (h₂.updateToken token Token.disarm) :=
    calmly_updateToken token _ (Token.interrupted_disarm _)
  have calm₁ : h₁.strikes = [] := calmly.strikes.trans (by rw [← supplied]; exact calm)
  rw [claimPort_calm calm₁] at judged
  unfold Net.listenOn
  dsimp only
  rw [Act.bind_apply, judged]
  unfold bindTo
  rw [granted]
  cases h.grantedPort? port with
  | none =>
    simp only [flag]
    exact ⟨_, rfl, commands, calmly.trans (disarmed _), sockets, socketCount⟩
  | some port' =>
    dsimp only
    refine ⟨_, rfl, commands,
      ⟨calmly.backend, calmly.strikes, calmly.taken, calmly.supply, fun name => ?_⟩, ?_,
      socketCount⟩
    · exact ((disarmed (h₁.updateSocket h.socketCount _)).flags name).trans (calmly.flags name)
    · change assign h₁.sockets h.socketCount _ = _
      rw [sockets]
      exact assign_assign _ _ _ _

/-- A call that is refused what it asks for leaves everybody listening where they listened. -/
theorem listen_denied (token : String) (port : Nat) {h : Host} {e : NetError}
    (denied : h.granted Net.listenRequests (.loopback port) = .error e) :
    ∃ h', Net.listen token port h = .ok (.error e) h' ∧ h'.commands = h.commands ∧
      Calmly (h.supplied Net.listenRequests) h' ∧ ∀ p, h'.isListening p = h.isListening p := by
  rw [Net.listen_apply, denied]
  refine ⟨_, rfl, ?_⟩
  obtain same | more := opened_cases Net.listenRequests h
  · rw [same]
    exact ⟨rfl, ⟨rfl, rfl, rfl, rfl, fun _ => rfl⟩, fun _ => rfl⟩
  · rw [more]
    exact ⟨rfl, ⟨rfl, rfl, rfl, rfl, fun _ => rfl⟩, fun p =>
      (isListening_addSocket .unconnected h p).trans (Bool.or_false _)⟩

end DebugBridge
