import DebugBridge.Proofs.Host.Listening

/-!
# Who owns a socket

A socket that listens belongs to whoever opened it as long as no interrupt can reach it. An activity
that opens sockets is tidy if none of them listens in the end.
-/

namespace DebugBridge.Host

/-- Every socket that some token is armed with was opened. -/
def Coherent (h : Host) : Prop :=
  ∀ name id, (h.tokens name).armed = some (.socket id) → id < h.socketCount

/-- A listening socket that no interrupt can reach and that shares its port with nobody. -/
structure Owned (id : Nat) (h : Host) : Prop where
  opened : id < h.socketCount
  unarmed : ∀ name, (h.tokens name).armed ≠ some (.socket id)
  listener : ∃ l, h.sockets id = .listener l
  free : ∀ p, (h.sockets id).listensOn p = true → h.taken p = false
  alone : ∀ p other, (h.sockets id).listensOn p = true → other < h.socketCount → other ≠ id →
    (h.sockets other).listensOn p = false

theorem Coherent.undisturbed {h h' : Host} (coherent : Coherent h) (same : Undisturbed h h') :
    Coherent h' := by
  intro name id held
  rw [same.socketCount]
  exact coherent name id (same.held name id held)

theorem Coherent.oneMore {token : String} {h h' : Host} (coherent : Coherent h)
    (more : OneMore token h h') : Coherent h' := by
  intro name id held
  rw [more.socketCount]
  obtain old | ⟨-, rfl⟩ := more.held name id held
  · exact Nat.lt_succ_of_lt (coherent name id old)
  · exact Nat.lt_succ_self _

/-- Nothing that was opened in between is left over. -/
structure Tidy (h h' : Host) : Prop where
  coherent : Coherent h → Coherent h'
  listening : ∀ p, h'.isListening p = true → h.isListening p = true
  strikes : h'.strikes.Sublist h.strikes

theorem Tidy.refl (h : Host) : Tidy h h := ⟨id, fun _ => id, .refl _⟩

theorem Tidy.trans {h₁ h₂ h₃ : Host} (a : Tidy h₁ h₂) (b : Tidy h₂ h₃) : Tidy h₁ h₃ :=
  ⟨fun before => b.coherent (a.coherent before),
    fun p listening => a.listening p (b.listening p listening), b.strikes.trans a.strikes⟩

theorem Undisturbed.tidy {h h' : Host} (same : Undisturbed h h') : Tidy h h' where
  coherent before := before.undisturbed same
  listening p listening := by
    simp only [isListening, Bool.or_eq_true, List.any_eq_true, List.mem_range, same.taken,
      same.socketCount] at listening ⊢
    obtain taken | ⟨id, lt, listens⟩ := listening
    · exact .inl taken
    · exact .inr ⟨id, lt, same.listens id p listens⟩
  strikes := same.strikes

/-- A socket that does not listen is nothing left over. -/
theorem OneMore.tidy {token : String} {h h' : Host} (more : OneMore token h h')
    (silent : ∀ p, (h'.sockets h.socketCount).listensOn p = false) : Tidy h h' where
  coherent before := before.oneMore more
  listening p listening := by
    simp only [isListening, Bool.or_eq_true, List.any_eq_true, List.mem_range, more.taken,
      more.socketCount] at listening ⊢
    obtain taken | ⟨id, lt, listens⟩ := listening
    · exact .inl taken
    · have ne : id ≠ h.socketCount := fun own => by simp [own, silent p] at listens
      exact .inr ⟨id, by omega, more.listens id p ne listens⟩
  strikes := more.strikes

/-- Nothing that came of some requests listens. -/
theorem tidy_opened (operations : List String) (h : Host) : Tidy h (h.opened operations) := by
  obtain same | more := opened_cases operations h
  · rw [same]
    exact (sameWorld_supplied operations h).quiet.toUndisturbed.tidy
  · rw [more]
    refine (oneMore_supplied "" operations h).tidy fun p => ?_
    simp [addSocket, supplied, Socket.listensOn]

theorem Unstruck.sublist {point : Point} {h h' : Host} (unstruck : h.Unstruck point)
    (strikes : h'.strikes.Sublist h.strikes) : h'.Unstruck point :=
  fun s mem => unstruck s (strikes.subset mem)

/-- No socket began to listen and nobody else took a port. -/
structure Fewer (h h' : Host) : Prop where
  taken : h'.taken = h.taken
  socketCount : h.socketCount ≤ h'.socketCount
  listens : ∀ id p, id < h'.socketCount → (h'.sockets id).listensOn p = true →
    id < h.socketCount ∧ (h.sockets id).listensOn p = true

theorem Fewer.trans {h₁ h₂ h₃ : Host} (a : Fewer h₁ h₂) (b : Fewer h₂ h₃) : Fewer h₁ h₃ where
  taken := b.taken.trans a.taken
  socketCount := Nat.le_trans a.socketCount b.socketCount
  listens id p lt listens :=
    have ⟨lt', listens'⟩ := b.listens id p lt listens
    a.listens id p lt' listens'

theorem Undisturbed.fewer {h h' : Host} (same : Undisturbed h h') : Fewer h h' where
  taken := same.taken
  socketCount := Nat.le_of_eq same.socketCount.symm
  listens id p lt listens := ⟨same.socketCount ▸ lt, same.listens id p listens⟩

/-- The socket exists, and nobody else listens on the port. -/
structure Reserved (port id : Nat) (h : Host) : Prop where
  opened : id < h.socketCount
  free : h.taken port = false
  alone : ∀ other, other < h.socketCount → other ≠ id → (h.sockets other).listensOn port = false

theorem Reserved.fewer {port id : Nat} {h h' : Host} (reserved : Reserved port id h)
    (fewer : Fewer h h') : Reserved port id h' where
  opened := Nat.lt_of_lt_of_le reserved.opened fewer.socketCount
  free := fewer.taken ▸ reserved.free
  alone other lt ne := Bool.eq_false_iff.mpr fun listens => by
    obtain ⟨lt', listens'⟩ := fewer.listens other port lt listens
    simp [reserved.alone other lt' ne] at listens'

/-- The port on which an owned socket listens is reserved for it. -/
theorem Owned.reserved {id p : Nat} {h : Host} (owned : Owned id h)
    (listens : (h.sockets id).listensOn p = true) : Reserved p id h :=
  ⟨owned.opened, owned.free p listens, fun other lt ne => owned.alone p other listens lt ne⟩

/-- A port that is reserved for a socket that does not listen is free. -/
theorem Reserved.isListening {port id : Nat} {h : Host} (reserved : Reserved port id h)
    (silent : (h.sockets id).listensOn port = false) : h.isListening port = false := by
  simp only [Host.isListening, Bool.or_eq_false_iff, List.any_eq_false, List.mem_range]
  refine ⟨reserved.free, fun other lt listens => ?_⟩
  by_cases eq : other = id
  · subst eq
    simp [silent] at listens
  · simp [reserved.alone other lt eq] at listens

/-- The socket is bound to the loopback port that it asked for, and shares that port with nobody; a
socket that asked for port zero is bound to one of the system's own. -/
def BoundFor (port id : Nat) (h : Host) : Prop :=
  ∃ granted, (h.sockets id).endpoint = .loopback granted ∧ Reserved granted id h ∧
    if port = 0 then firstEphemeral ≤ granted else granted = port

/-- A port that was granted while nobody listened on it is reserved for the new socket. -/
theorem reserved_of_granted {token : String} {port granted : Nat} {h h' : Host}
    (free : h.grantedPort? port = some granted) (more : OneMore token h h') :
    Reserved granted h.socketCount h' := by
  have unused := (grantedPort?_eq free).2
  simp only [isListening, Bool.or_eq_false_iff, List.any_eq_false, List.mem_range] at unused
  refine ⟨by simp [more.socketCount], more.taken ▸ unused.1, fun other lt ne => ?_⟩
  have old : other < h.socketCount := by
    rw [more.socketCount] at lt
    omega
  exact Bool.eq_false_iff.mpr fun after => unused.2 other old (more.listens other _ ne after)

theorem boundFor_of_granted {token : String} {port granted : Nat} {h h' : Host}
    (free : h.grantedPort? port = some granted) (more : OneMore token h h')
    (bound : (h'.sockets h.socketCount).endpoint = .loopback granted) :
    BoundFor port h.socketCount h' := by
  refine ⟨granted, bound, reserved_of_granted free more, ?_⟩
  split
  · next zero => exact grantedPort?_zero (zero ▸ free)
  · next nonzero => exact (grantedPort?_eq free).1 nonzero

theorem BoundFor.undisturbed {port id : Nat} {h h' : Host} (bound : BoundFor port id h)
    (same : Undisturbed h h') : BoundFor port id h' := by
  obtain ⟨granted, endpoint, reserved, asked⟩ := bound
  exact ⟨granted, (same.endpoints id).trans endpoint, reserved.fewer same.fewer, asked⟩

theorem OneMore.onward {token : String} {h h' : Host} (more : OneMore token h h') :
    Onward token h h' where
  clockEnd? := more.clockEnd?
  flags := more.flags
  commands := more.commands ▸ List.suffix_refl _
  silent _ := more.commands
  childCount := Nat.le_of_eq more.childCount.symm
  outcomes id o _ e := more.outcomes id o e

theorem Owned.undisturbed {id : Nat} {h h' : Host} (owned : Owned id h)
    (same : Undisturbed h h') : Owned id h' := by
  obtain ⟨l, listener⟩ := owned.listener
  have kept : h'.sockets id = h.sockets id :=
    (same.untouched id l owned.unarmed listener).trans listener.symm
  refine ⟨same.socketCount ▸ owned.opened, fun name held => owned.unarmed name
    (same.held name id held), ⟨l, kept.trans listener⟩, fun p listens => ?_,
    fun p other listens lt ne => ?_⟩
  · rw [same.taken]
    exact owned.free p (kept ▸ listens)
  · have before := owned.alone p other (kept ▸ listens) (same.socketCount ▸ lt) ne
    exact Bool.eq_false_iff.mpr fun after => by simp [same.listens other p after] at before

/-- A socket that has just begun to listen is owned. -/
theorem owned_of_listened {token : String} {port granted : Nat} {h h' : Host}
    (coherent : Coherent h) (free : h.grantedPort? port = some granted) (more : OneMore token h h')
    (disarmed : (h'.tokens token).armed = none)
    (bound : (h'.sockets h.socketCount).endpoint = .loopback granted) :
    Owned h.socketCount h' := by
  have listener : ∃ l, h'.sockets h.socketCount = .listener l := by
    cases e : h'.sockets h.socketCount with
    | listener l => exact ⟨l, rfl⟩
    | unconnected => simp [e, Socket.endpoint] at bound
    | stream s => simp [e, Socket.endpoint] at bound
  have only (p : Nat) (listens : (h'.sockets h.socketCount).listensOn p = true) : p = granted := by
    obtain ⟨l, e⟩ := listener
    simp only [e, Socket.endpoint, Socket.listensOn, Bool.and_eq_true, decide_eq_true_eq]
      at bound listens
    simpa using listens.2.symm.trans bound
  have reserved := reserved_of_granted free more
  refine ⟨reserved.opened, fun name held => ?_, listener, fun p listens => ?_,
    fun p other listens lt ne => ?_⟩
  · obtain old | ⟨rfl, -⟩ := more.held name _ held
    · exact Nat.lt_irrefl _ (coherent name _ old)
    · simp [disarmed] at held
  · exact only p listens ▸ reserved.free
  · exact only p listens ▸ reserved.alone other lt ne

end DebugBridge.Host
