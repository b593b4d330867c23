import DebugBridge.Host.Process
import DebugBridge.Proofs.Host.Activity
import Mathlib.Data.List.Basic

/-!
# What an interrupt changes

An interrupt leaves its token raised and empty. It kills the armed child or shuts the armed socket
and touches no other child and no other listening socket; no decided outcome changes and no socket
begins to listen.
-/

namespace DebugBridge.Host

open Cancel

/-- The host with a token raised and empty. -/
def emptied (name : String) (h : Host) : Host :=
  (h.raise name).updateToken name fun _ => { interrupted := true }

/-- What an interrupt does apart from its diagnostics. -/
def cut (name : String) (h : Host) : Host :=
  let raised := h.emptied name
  match (h.tokens name).armed with
  | none => raised
  | some (.socket id) => (raised.shutDown id).2
  | some (.process id) => (raised.killChild id).2

theorem shutDown_note (severity : Severity) (text : String) (id : Nat) (h : Host) :
    (h.note severity text).shutDown id =
      ((h.shutDown id).1, (h.shutDown id).2.note severity text) := by
  unfold shutDown
  cases e : h.sockets id with
  | unconnected => simp [note, e]
  | listener l =>
    simp only [note, e]
    split <;> rfl
  | stream s =>
    simp only [note, e]
    rfl

/-- A child is forced closed by a kill. -/
theorem forceClosed_process (id : Nat) (h : Host) :
    ∃ events, h.forceClosed (.process id) = { (h.killChild id).2 with events := events } := by
  simp only [forceClosed, killChild]
  split <;> simp_all only [Prod.mk.injEq] <;> obtain ⟨-, rfl⟩ := ‹_› <;> exact ⟨_, rfl⟩

/-- A socket is forced closed by shutting it down. -/
theorem forceClosed_socket (id : Nat) (h : Host) :
    ∃ events, h.forceClosed (.socket id) = { (h.shutDown id).2 with events := events } := by
  simp only [forceClosed, shutDown_note]
  split <;> simp_all only [Prod.mk.injEq] <;> obtain ⟨-, rfl⟩ := ‹_› <;> exact ⟨_, rfl⟩

theorem emptied_eq (name : String) (h : Host) :
    h.emptied name =
      { h.updateToken name fun _ => { interrupted := true } with
        foreword := (h.raise name).foreword } := by
  simp [emptied, raise, updateToken]

@[simp] theorem tokens_emptied (name : String) (h : Host) :
    (h.emptied name).tokens = assign h.tokens name { interrupted := true } := by
  rw [emptied_eq]
  rfl

theorem interrupt_eq (name : String) (h : Host) :
    ∃ events, h.interrupt name = { h.cut name with events := events } := by
  have taken : ((h.raise name).tokens name).take =
      ((h.tokens name).armed, { interrupted := true }) := by
    simp [raise, updateToken, Token.take, Token.raise, Token.disarm]
  unfold interrupt closeArmed cut
  rw [taken]
  cases e : (h.tokens name).armed with
  | none =>
    have : h.raise name = h.emptied name := by
      simp [emptied, raise, updateToken, Token.raise, e]
    exact ⟨h.events, this⟩
  | some r =>
    cases r with
    | socket id => exact forceClosed_socket id _
    | process id => exact forceClosed_process id _

/-- Two hosts that differ at most in what is scheduled and what was written; no strike was added. -/
structure SameWorld (h h' : Host) : Prop where
  backend : h'.backend = h.backend
  strikes : h'.strikes.Sublist h.strikes
  commands : h'.commands = h.commands
  children : h'.children = h.children
  childCount : h'.childCount = h.childCount
  occasions : h'.occasions = h.occasions
  tokens : h'.tokens = h.tokens
  sockets : h'.sockets = h.sockets
  socketCount : h'.socketCount = h.socketCount
  taken : h'.taken = h.taken
  clockEnd? : h'.clockEnd? = h.clockEnd?

/-- Nothing was opened and nobody else did anything: no flag went down, every socket is bound where
it was, and the listening sockets are those of before without some that were armed. -/
structure Undisturbed (h h' : Host) : Prop where
  backend : h'.backend = h.backend
  clockEnd? : h'.clockEnd? = h.clockEnd?
  strikes : h'.strikes.Sublist h.strikes
  taken : h'.taken = h.taken
  socketCount : h'.socketCount = h.socketCount
  flags : ∀ name, h.interrupted name = true → h'.interrupted name = true
  endpoints : ∀ id, (h'.sockets id).endpoint = (h.sockets id).endpoint
  listens : ∀ id p, (h'.sockets id).listensOn p = true → (h.sockets id).listensOn p = true
  held : ∀ name id, (h'.tokens name).armed = some (.socket id) →
    (h.tokens name).armed = some (.socket id)
  untouched : ∀ id l, (∀ name, (h.tokens name).armed ≠ some (.socket id)) →
    h.sockets id = .listener l → h'.sockets id = .listener l
  unconnected : ∀ id, h.sockets id = .unconnected → h'.sockets id = .unconnected

/-- Nothing was started either, and no decided outcome changed. -/
structure Quiet (h h' : Host) : Prop extends Undisturbed h h' where
  commands : h'.commands = h.commands
  childCount : h'.childCount = h.childCount
  outcomes : ∀ id o, (h.children id).outcome? = some o → (h'.children id).outcome? = some o
  numbers : ∀ id, (h'.children id).command? = (h.children id).command?

theorem Undisturbed.trans {h₁ h₂ h₃ : Host} (a : Undisturbed h₁ h₂) (b : Undisturbed h₂ h₃) :
    Undisturbed h₁ h₃ where
  backend := b.backend.trans a.backend
  clockEnd? := b.clockEnd?.trans a.clockEnd?
  strikes := b.strikes.trans a.strikes
  taken := b.taken.trans a.taken
  socketCount := b.socketCount.trans a.socketCount
  flags name h := b.flags name (a.flags name h)
  endpoints id := (b.endpoints id).trans (a.endpoints id)
  listens id p h := a.listens id p (b.listens id p h)
  held name id h := a.held name id (b.held name id h)
  untouched id l free h :=
    b.untouched id l (fun name e => free name (a.held name id e)) (a.untouched id l free h)
  unconnected id e := b.unconnected id (a.unconnected id e)

theorem Quiet.trans {h₁ h₂ h₃ : Host} (a : Quiet h₁ h₂) (b : Quiet h₂ h₃) : Quiet h₁ h₃ where
  toUndisturbed := a.toUndisturbed.trans b.toUndisturbed
  commands := b.commands.trans a.commands
  childCount := b.childCount.trans a.childCount
  outcomes id o h := b.outcomes id o (a.outcomes id o h)
  numbers id := (b.numbers id).trans (a.numbers id)

theorem SameWorld.refl (h : Host) : SameWorld h h := by constructor <;> rfl

theorem SameWorld.quiet {h h' : Host} (w : SameWorld h h') : Quiet h h' where
  backend := w.backend
  clockEnd? := w.clockEnd?
  strikes := w.strikes
  taken := w.taken
  commands := w.commands
  childCount := w.childCount
  socketCount := w.socketCount
  flags name e := by simpa only [interrupted, w.tokens] using e
  outcomes id o e := by simpa only [w.children] using e
  numbers id := by rw [w.children]
  endpoints id := by rw [w.sockets]
  listens id p e := by simpa only [w.sockets] using e
  held name id e := by simpa only [w.tokens] using e
  untouched id l _ e := by simpa only [w.sockets] using e
  unconnected id e := by simpa only [w.sockets] using e

theorem Quiet.refl (h : Host) : Quiet h h := (SameWorld.refl h).quiet

theorem quiet_note (severity : Severity) (text : String) (h : Host) :
    Quiet h (h.note severity text) :=
  SameWorld.quiet (by constructor <;> rfl)

theorem quiet_updateToken {name : String} {f : Token → Token} {h : Host}
    (flag : (h.tokens name).interrupted = true → (f (h.tokens name)).interrupted = true)
    (held : ∀ id, (f (h.tokens name)).armed = some (.socket id) →
      (h.tokens name).armed = some (.socket id)) : Quiet h (h.updateToken name f) where
  backend := rfl
  clockEnd? := rfl
  strikes := .refl _
  taken := rfl
  commands := rfl
  childCount := rfl
  socketCount := rfl
  flags other e := by
    by_cases eq : other = name
    · subst eq
      simpa [interrupted, updateToken] using flag e
    · simpa [interrupted, updateToken, eq] using e
  outcomes _ _ e := e
  numbers _ := rfl
  endpoints _ := rfl
  listens _ _ e := e
  held other id e := by
    by_cases eq : other = name
    · subst eq
      exact held id (by simpa [updateToken] using e)
    · simpa [updateToken, eq] using e
  untouched _ _ _ e := e
  unconnected _ e := e

theorem quiet_updateChild {child : Nat} {f : Child → Child} {h : Host}
    (outcome : ∀ o, (h.children child).outcome? = some o →
      (f (h.children child)).outcome? = some o)
    (number : (f (h.children child)).command? = (h.children child).command?) :
    Quiet h (h.updateChild child f) where
  backend := rfl
  clockEnd? := rfl
  strikes := .refl _
  taken := rfl
  commands := rfl
  childCount := rfl
  socketCount := rfl
  flags _ e := e
  outcomes id o e := by
    by_cases eq : id = child
    · subst eq
      simpa [updateChild] using outcome o e
    · simpa [updateChild, eq] using e
  numbers id := by
    by_cases eq : id = child
    · subst eq
      simpa [updateChild] using number
    · simp [updateChild, eq]
  endpoints _ := rfl
  listens _ _ e := e
  held _ _ e := e
  untouched _ _ _ e := e
  unconnected _ e := e

theorem quiet_record (child : Nat) (call : Call) (h : Host) : Quiet h (h.record child call) where
  backend := rfl
  clockEnd? := rfl
  strikes := .refl _
  taken := rfl
  commands := rfl
  childCount := rfl
  socketCount := rfl
  flags _ e := e
  outcomes _ _ e := e
  numbers _ := rfl
  endpoints _ := rfl
  listens _ _ e := e
  held _ _ e := e
  untouched _ _ _ e := e
  unconnected _ e := e

theorem quiet_kill (child : Nat) (h : Host) : Quiet h (h.killChild child).2 :=
  (quiet_record child .kill h).trans
    (quiet_updateChild (fun _ e => Child.outcome?_kill e) rfl)

/-- A change of streams leaves every other socket as it is. -/
theorem sockets_updateStream (id other : Nat) (f : Stream → Stream) (h : Host) :
    (h.updateStream id f).sockets other = h.sockets other ∨
      ∃ s, h.sockets other = .stream s ∧ (h.updateStream id f).sockets other = .stream (f s) := by
  by_cases eq : other = id
  · subst eq
    cases e : h.sockets other with
    | stream s => exact .inr ⟨s, rfl, by simp [updateStream, updateSocket, e]⟩
    | unconnected => exact .inl (by simp [updateStream, updateSocket, e])
    | listener l => exact .inl (by simp [updateStream, updateSocket, e])
  · exact .inl (by simp [updateStream, updateSocket, eq])

theorem listensOn_updateStream (id other p : Nat) (f : Stream → Stream) (h : Host) :
    ((h.updateStream id f).sockets other).listensOn p = (h.sockets other).listensOn p := by
  obtain e | ⟨s, e, e'⟩ := sockets_updateStream id other f h
  · rw [e]
  · rw [e, e']
    rfl

theorem endpoint_updateStream (id other : Nat) (f : Stream → Stream) (h : Host) :
    ((h.updateStream id f).sockets other).endpoint = (h.sockets other).endpoint := by
  obtain e | ⟨s, e, e'⟩ := sockets_updateStream id other f h
  · rw [e]
  · rw [e, e']
    rfl

theorem listener_updateStream {id other : Nat} {f : Stream → Stream} {h : Host} {l : Listener}
    (e : h.sockets other = .listener l) : (h.updateStream id f).sockets other = .listener l := by
  obtain e' | ⟨s, e', -⟩ := sockets_updateStream id other f h
  · rw [e', e]
  · simp [e] at e'

theorem shutDown_eq (id : Nat) (h : Host) :
    ∃ sockets, (h.shutDown id).2 = { h with sockets := sockets } := by
  unfold shutDown
  split
  · exact ⟨h.sockets, rfl⟩
  · split
    · exact ⟨_, rfl⟩
    · exact ⟨h.sockets, rfl⟩
  · exact ⟨_, rfl⟩

theorem endpoint_shutDown (id other : Nat) (h : Host) :
    ((h.shutDown id).2.sockets other).endpoint = (h.sockets other).endpoint := by
  unfold shutDown
  split
  · rfl
  · next l hl =>
    split
    · by_cases eq : other = id
      · subst eq
        simp [updateSocket, hl, Socket.endpoint]
      · simp [updateSocket, eq]
    · rfl
  · simp only [endpoint_updateStream]

theorem listensOn_shutDown {id other p : Nat} {h : Host}
    (e : ((h.shutDown id).2.sockets other).listensOn p = true) :
    (h.sockets other).listensOn p = true := by
  unfold shutDown at e
  split at e
  · exact e
  · next l hl =>
    split at e
    · by_cases eq : other = id
      · subst eq
        simp [updateSocket, Socket.listensOn] at e
      · simpa [updateSocket, eq] using e
    · exact e
  · simpa only [listensOn_updateStream] using e

theorem listener_shutDown {id other : Nat} {h : Host} {l : Listener} (ne : other ≠ id)
    (e : h.sockets other = .listener l) : (h.shutDown id).2.sockets other = .listener l := by
  unfold shutDown
  split
  · exact e
  · split
    · simpa [updateSocket, ne] using e
    · exact e
  · exact listener_updateStream (listener_updateStream e)

theorem unconnected_shutDown {id other : Nat} {h : Host} (e : h.sockets other = .unconnected) :
    (h.shutDown id).2.sockets other = .unconnected := by
  have stream {f : Stream → Stream} {id : Nat} {h : Host} (e : h.sockets other = .unconnected) :
      (h.updateStream id f).sockets other = .unconnected := by
    obtain e' | ⟨s, e', -⟩ := sockets_updateStream id other f h
    · rw [e', e]
    · simp [e] at e'
  unfold shutDown
  split
  · exact e
  · next l listener =>
    have ne : other ≠ id := by
      rintro rfl
      simp [e] at listener
    split
    · simpa [updateSocket, ne] using e
    · exact e
  · exact stream (stream e)

/-- An interrupt without its diagnostics starts and opens nothing. -/
theorem quiet_cut (name : String) (h : Host) : Quiet h (h.cut name) := by
  have raised : Quiet h (h.emptied name) := by
    have flagged : Quiet h (h.updateToken name fun _ => { interrupted := true }) :=
      quiet_updateToken (fun _ => rfl) (fun _ e => by simp at e)
    rw [emptied_eq]
    exact flagged.trans (SameWorld.quiet (by constructor <;> rfl))
  unfold cut
  cases e : (h.tokens name).armed with
  | none => exact raised
  | some r =>
    cases r with
    | process id => exact raised.trans (quiet_kill id _)
    | socket id =>
      obtain ⟨sockets, eq⟩ := shutDown_eq id (h.emptied name)
      change Quiet h ((h.emptied name).shutDown id).2
      exact {
        backend := by rw [eq]; rfl
        clockEnd? := by rw [eq]; rfl
        strikes := by rw [eq]; rfl
        taken := by rw [eq]; rfl
        commands := by rw [eq]; rfl
        childCount := by rw [eq]; rfl
        socketCount := by rw [eq]; rfl
        flags := by rw [eq]; exact raised.flags
        outcomes := by rw [eq]; exact raised.outcomes
        numbers := by rw [eq]; exact raised.numbers
        endpoints := fun other => endpoint_shutDown id other _
        listens := fun other p listening => raised.listens other p (listensOn_shutDown listening)
        held := by rw [eq]; exact raised.held
        -- The shut socket was armed, so it is not one of those that the field speaks about.
        untouched := fun other l free listener =>
          listener_shutDown (fun same => free name (same ▸ e)) listener
        unconnected := fun other e => unconnected_shutDown e }

theorem quiet_interrupt (name : String) (h : Host) : Quiet h (h.interrupt name) := by
  obtain ⟨events, e⟩ := interrupt_eq name h
  rw [e]
  exact (quiet_cut name h).trans (SameWorld.quiet (by constructor <;> rfl))

/-- An interrupt leaves its token raised. -/
theorem interrupted_interrupt (name : String) (h : Host) :
    (h.interrupt name).interrupted name = true := by
  obtain ⟨events, e⟩ := interrupt_eq name h
  rw [e]
  change (h.cut name).interrupted name = true
  unfold cut
  split
  · simp [interrupted]
  · obtain ⟨sockets, eq⟩ := shutDown_eq _ (h.emptied name)
    rw [eq]
    simp [interrupted]
  · simp [interrupted, killChild, updateChild]

end DebugBridge.Host
