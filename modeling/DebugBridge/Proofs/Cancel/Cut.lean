import DebugBridge.Proofs.Cancel.Operations

/-!
# An interrupt cuts the sequence of commands

A client runs operations through one token, one after another, and may let each depend on what the
ones before it gave. An interrupt during one of its commands changes nothing before that command and
leaves it the last one.
-/

namespace DebugBridge

open Host

/-- The argument vectors of all commands so far, the first one first. -/
def Host.issued (h : Host) : List (List String) := h.commands.reverse.map (·.argv)

/-- What runs operations through one token, each with what the ones before it gave. A call that the
state of a tunnel does not allow is an operation too. -/
inductive Client (b : Bridge) (token : String) : {α : Type} → Act α → Prop
  | done {α : Type} (a : α) : Client b token (pure a : Act α)
  | next {α β : Type} {m : Act α} {f : α → Act β} : Client b token m →
      (∀ a, Client b token (f a)) → Client b token (m >>= f)
  | act (a : Action) : Client b token (b.act token a)
  | connect (address : String) : Client b token (b.connect token address)
  | property (serial name : String) : Client b token (b.property token serial name)
  | serialNumber : Client b token (b.serialNumber token)
  | devices : Client b token (b.devices token)
  | address (serial : String) : Client b token (b.address token serial)
  | choose (selector : Selector) : Client b token (b.choose token selector)
  | establish (t : Tunnel) (serial : String) (range : PortRange) (forceForward : Bool) :
      Client b token (t.establish b token serial range forceForward)
  | close (t : Tunnel) (serial : String) : Client b token (t.close b token serial)
  | enable (serial : String) (port interval : Nat) :
      Client b token (Wireless.enable b token serial port interval)
  | join (address : String) : Client b token (Wireless.connect b token address)

theorem Client.heeds {b : Bridge} {s : Strike} {α : Type} {m : Act α}
    (client : Client b s.token m) (inCommand : s.point ≠ .listen) : Heeds s m := by
  induction client with
  | done a => exact follows_pure a
  | next _ _ first rest => exact follows_bind (course_step s.token) first rest
  | act a => exact follows_act b a
  | connect address => exact follows_connect b address
  | property serial name => exact follows_property b serial name
  | serialNumber => exact follows_serialNumber b
  | devices => exact follows_devices b
  | address serial => exact follows_address b serial
  | choose selector => exact follows_choose b selector
  | establish t serial range forceForward =>
    exact follows_establish b inCommand t serial range forceForward
  | close t serial => exact follows_close b t serial
  | enable serial port interval => exact follows_enable b serial port interval
  | join address => exact follows_join b address

/-- A suffix of the latest commands is a beginning of what was issued. -/
theorem issued_eq_take {cut free : Host} (suffix : cut.commands <:+ free.commands) :
    cut.issued = free.issued.take cut.commands.length := by
  obtain ⟨later, eq⟩ := suffix
  simp [Host.issued, ← eq]

/-- Through an interrupted token a client issues nothing. An interrupt at a moment inside a command
leaves a beginning of what is issued without it: this command is the last one, unless somebody else
strikes so late that others have come between. A strike that never comes changes nothing. -/
theorem interrupt_cuts {b : Bridge} {token : String} {α : Type} {m : Act α}
    (client : Client b token m) :
    (∀ h : Host, h.interrupted token = true → (Act.after m h).issued = h.issued) ∧
    ∀ (h : Host) (s : Strike), Still token h → s.token = token → s.point ≠ .listen →
      (Act.after m { h with strikes := [s] }).interrupted token = true ∧
        (∃ n, s.command < n ∧ n ≤ (Act.after m h).issued.length ∧
          (s.later = false → n = s.command + 1) ∧
          (Act.after m { h with strikes := [s] }).issued = (Act.after m h).issued.take n) ∨
      (Act.after m { h with strikes := [s] }).interrupted token = false ∧
        (Act.after m { h with strikes := [s] }).issued = (Act.after m h).issued := by
  refine ⟨fun h raised => ?_, fun h s still own inCommand => ?_⟩
  · have heeds : Heeds ⟨0, .wait, token, false⟩ m := Client.heeds client (by simp)
    have onward := onward_of_steps (heeds.within h)
    simp only [Host.issued, onward.silent raised]
  · subst own
    have pending : Pending s [s] h.alarms h := ⟨.inr rfl, by simp [still.alarms]⟩
    have shadows : Shadows s { h with strikes := [s] } h := Shadows.intro still pending
    cases (client.heeds inCommand).tracks _ h shadows trivial with
    | struck struck =>
      refine .inl ⟨struck.raised, _, struck.reached, ?_, struck.exact,
        issued_eq_take struck.commands⟩
      simpa [Host.issued] using struck.commands.length_le
    | @alike a cut' free' e e' shadows' =>
      rw [Act.after_ok e, Act.after_ok e']
      obtain ⟨still', pending'⟩ := shadows'
      exact .inr ⟨still'.idle, rfl⟩
    | @blocked halt cut' free' e e' shadows' =>
      rw [Act.after_error e, Act.after_error e']
      obtain ⟨still', pending'⟩ := shadows'
      exact .inr ⟨still'.idle, rfl⟩

/-- The interrupt comes while the old connection is being dropped, and no new one is made. -/
theorem interrupt_cuts_disconnect :
    Client {} "work" (Wireless.connect {} "work" "phone") ∧
      Still "work" { backend := fun _ _ => {} } ∧
      (Act.after (Wireless.connect {} "work" "phone")
        { strikes := [⟨0, .wait, "work", false⟩], backend := fun _ _ => {} }).issued =
      (Act.after (Wireless.connect {} "work" "phone")
        { backend := fun _ _ => {} }).issued.take 1 := by
  have client : Client {} "work" (Wireless.connect {} "work" "phone") := .join "phone"
  have still : Still "work" { backend := fun _ _ => {} } := ⟨rfl, rfl, rfl, rfl⟩
  have raised : (Act.after (Wireless.connect {} "work" "phone")
      { strikes := [⟨0, .wait, "work", false⟩],
        backend := fun _ _ => {} }).interrupted "work" = true := by decide
  refine ⟨client, still, ?_⟩
  obtain ⟨_, n, _, _, last, cut⟩ | ⟨idle, _⟩ :=
    (interrupt_cuts client).2 _ ⟨0, .wait, "work", false⟩ still rfl (by decide)
  · rw [cut, last rfl]
  · rw [raised] at idle
    cases idle

end DebugBridge
