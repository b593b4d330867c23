import DebugBridge.Proofs.Tunnel.Attempts

/-!
# How a negotiation ends

A negotiation that returns was settled: it failed, or it opened a passage. Either way it is known
which commands were issued, that every registration of no use was removed unless an interrupt
forbade it, and how the passage or the failure came about.
-/

namespace DebugBridge.Tunnel

open Host

variable {b : Bridge} {token serial socket : String}

/-- A command that registers the socket of a device in reverse direction, on whatever port. -/
def IsRegistration (b : Bridge) (serial socket : String) (c : Command) : Prop :=
  ∃ port, c.argv = b.argv (Action.reverse serial socket port).arguments

theorem not_isRegistration_remove {c : Command}
    (removal : c.argv = b.argv (Action.reverseRemove serial socket).arguments) :
    ¬ IsRegistration b serial socket c := by
  intro ⟨port, registration⟩
  have same := removal.symm.trans registration
  simp only [Bridge.argv, Action.arguments, onDevice, List.cons.injEq, true_and] at same
  have named : deviceSocket socket = "localabstract:" ++ socket := rfl
  have first := congrArg String.toList (same.1.trans named)
  simp [String.toList_append] at first

theorem not_isRegistration_forward {c : Command} {port : Nat}
    (forward : c.argv = b.argv (Action.forward serial port socket).arguments) :
    ¬ IsRegistration b serial socket c := by
  intro ⟨port', registration⟩
  have same := forward.symm.trans registration
  simp [Bridge.argv, Action.arguments, onDevice] at same

/-- Of some commands, the first one first, every registration that did not fail is followed at once
by its removal; the last command is excepted where `last` holds. -/
def Followed (b : Bridge) (serial socket : String) (h : Host) (last : Prop)
    (issued : List Command) : Prop :=
  ∀ i c, issued[i]? = some c → IsRegistration b serial socket c →
    (Settled c h → outcomeOf? c h = some (.code 0)) →
    (∃ r, issued[i + 1]? = some r ∧
      r.argv = b.argv (Action.reverseRemove serial socket).arguments) ∨
    last ∧ i + 1 = issued.length

theorem followed_nil {h : Host} {last : Prop} : Followed b serial socket h last [] := by
  intro i c at_
  simp at at_

theorem followed_single {h : Host} (c : Command) : Followed b serial socket h True [c] := by
  intro i c' at_ _ _
  cases i with
  | zero => exact .inr ⟨trivial, rfl⟩
  | succ i => simp at at_

/-- A registration and its removal may come before. -/
theorem Followed.undone {h h₀ h₁ : Host} {last : Prop} {issued : List Command} {port : Nat}
    {c r : Command} (followed : Followed b serial socket h last issued)
    (undone : Undone b serial socket port c r h₀ h₁) :
    Followed b serial socket h last (c :: r :: issued) := by
  intro i c' at_ registration succeeded
  match i with
  | 0 => exact .inl ⟨r, rfl, undone.removal⟩
  | 1 =>
    obtain rfl : r = c' := by simpa using at_
    exact absurd registration (not_isRegistration_remove undone.removal)
  | i + 2 =>
    obtain ⟨r', next, removal⟩ | ⟨ok, eq⟩ :=
      followed i c' (by simpa using at_) registration succeeded
    · exact .inl ⟨r', by simpa using next, removal⟩
    · exact .inr ⟨ok, by simp [← eq]⟩

theorem Followed.onward {h h' : Host} {last : Prop} {issued : List Command}
    (followed : Followed b serial socket h last issued) (onward : Onward token h h') :
    Followed b serial socket h' last issued := by
  intro i c at_ registration succeeded
  refine followed i c at_ registration fun settled => ?_
  rw [← outcomeOf?_onward onward settled]
  exact succeeded (settled.onward onward)

/-- Commands in the other direction may come after. -/
theorem Followed.forwards {h : Host} {last : Prop} {issued more : List Command}
    (followed : Followed b serial socket h False issued)
    (forwards : ∀ c ∈ more, ∃ port,
      c.argv = b.argv (Action.forward serial port socket).arguments) :
    Followed b serial socket h last (issued ++ more) := by
  intro i c at_ registration succeeded
  by_cases lt : i < issued.length
  · rw [List.getElem?_append_left lt] at at_
    obtain ⟨r, next, removal⟩ | ⟨impossible, -⟩ := followed i c at_ registration succeeded
    · obtain ⟨lt', -⟩ := List.getElem?_eq_some_iff.mp next
      exact .inl ⟨r, (List.getElem?_append_left lt').trans next, removal⟩
    · exact impossible.elim
  · rw [List.getElem?_append_right (Nat.le_of_not_lt lt)] at at_
    obtain ⟨port, forward⟩ := forwards c (List.mem_of_getElem? at_)
    exact absurd registration (not_isRegistration_forward forward)

/-- How the attempts on some ports in reverse direction ended, given the commands that they issued,
the first one first. -/
inductive ReverseEnded (b : Bridge) (token serial socket : String) (ports : List Nat)
    (issued : List Command) (h h' : Host) : Except TunnelError (Option Passage) → Prop
  | interrupted : h'.interrupted token = true → Followed b serial socket h' True issued →
      Tidy h h' → ReverseEnded b token serial socket ports issued h h' (.error .interrupted)
  | givenUp : Followed b serial socket h' False issued → Tidy h h' →
      ReverseEnded b token serial socket ports issued h h' (.ok none)
  | opened {port listener : Nat} {c : Command} : port ∈ ports → issued.getLast? = some c →
      Registered b (.reverse serial socket port) c h' →
      (Coherent h → Coherent h' ∧ Owned listener h') → BoundFor port listener h' →
      (h.Unstruck .listen → h'.interrupted token = false) →
      ReverseEnded b token serial socket ports issued h h' (.ok (some (.reverse port listener)))

/-- A port that was registered and unregistered may come before. -/
theorem ReverseEnded.again {port : Nat} {rest : List Nat} {issued : List Command}
    {h h₁ h' : Host} {c r : Command} {result : Except TunnelError (Option Passage)}
    (ended : ReverseEnded b token serial socket rest issued h₁ h' result)
    (undone : Undone b serial socket port c r h h₁) :
    ReverseEnded b token serial socket (port :: rest) (c :: r :: issued) h h' result := by
  cases ended with
  | interrupted raised followed tidy =>
    exact .interrupted raised (followed.undone undone) (undone.tidy.trans tidy)
  | givenUp followed tidy => exact .givenUp (followed.undone undone) (undone.tidy.trans tidy)
  | opened mem latest registered owned bound unraised =>
    exact .opened (List.mem_cons_of_mem port mem) (by simp [List.getLast?_cons, latest]) registered
      (fun before => owned (undone.tidy.coherent before)) bound
      fun unstruck => unraised (unstruck.sublist undone.tidy.strikes)

/-- What was issued by the attempts in reverse direction, and how that ended. -/
theorem openReverse_issues (range : PortRange) (ports : List Nat) :
    ∀ {h h' : Host} {result : Except TunnelError (Option Passage)},
      openReverse b token serial socket range ports h = .ok result h' →
      ∃ issued, h'.commands = issued.reverse ++ h.commands ∧
        ReverseEnded b token serial socket ports issued h h' result := by
  induction ports with
  | nil =>
    intro h h' result returned
    cases returned
    exact ⟨[], rfl, .givenUp followed_nil (Tidy.refl h)⟩
  | cons port rest ih =>
    intro h h' result returned
    have trying := tried b token serial socket range port rest h
    generalize openReverse b token serial socket range (port :: rest) h = run at trying returned
    cases trying with
    | refused raised =>
      cases returned
      exact ⟨[], rfl, .interrupted raised followed_nil (Tidy.refl h)⟩
    | @interrupted c _ commands raised tidy =>
      cases returned
      exact ⟨[c], commands, .interrupted raised (followed_single c) tidy⟩
    | @givenUp c _ commands settled outcome tidy =>
      cases returned
      refine ⟨[c], commands, .givenUp (fun i c' at_ _ succeeded => ?_) tidy⟩
      cases i with
      | zero =>
        obtain rfl : c = c' := by simpa using at_
        exact absurd (succeeded settled) outcome
      | succ i => simp at at_
    | @opened c _ listener commands registered owned bound unraised =>
      cases returned
      exact ⟨[c], commands, .opened List.mem_cons_self rfl registered owned bound unraised⟩
    | @stopped c r _ undone raised =>
      cases returned
      exact ⟨[c, r], undone.commands,
        .interrupted raised (followed_nil.undone undone) undone.tidy⟩
    | @again c r h₁ undone =>
      obtain ⟨issued, commands, ended⟩ := ih returned
      refine ⟨c :: r :: issued, ?_, ended.again undone⟩
      simp [commands, undone.commands]
    | halted => simp at returned

theorem ports_ne_nil (range : PortRange) : range.ports ≠ [] :=
  List.ne_nil_of_mem (PortRange.mem_ports.mpr ⟨Nat.le_refl range.first, range.ordered⟩)

/-- Only the last port of a range is followed by none. -/
theorem rest_ne_nil {range : PortRange} {port : Nat} {rest : List Nat}
    (suffix : port :: rest <:+ range.ports) (left : port < range.last) : rest ≠ [] := by
  rintro rfl
  obtain ⟨before, ports⟩ := suffix
  have ascending : (before ++ [port]).Pairwise (· < ·) := ports ▸ List.pairwise_lt_range'
  have last : range.last ∈ before ++ [port] :=
    ports ▸ PortRange.mem_ports.mpr ⟨range.ordered, Nat.le_refl _⟩
  obtain earlier | own := List.mem_append.mp last
  · have less := (List.pairwise_append.mp ascending).2.2 _ earlier port List.mem_cons_self
    omega
  · have same := List.mem_singleton.mp own
    omega

/-- How a failure is reported: an interrupt as such, anything else as the end of the range. -/
def Classified (token : String) (range : PortRange) (e : TunnelError) (h : Host) : Prop :=
  e = .interrupted ∧ h.interrupted token = true ∨
    e = .portRangeExhausted range ∧ h.interrupted token = false

/-- How the attempts on some ports in forward direction ended, given the commands that they issued,
the first one first. -/
inductive ForwardEnded (b : Bridge) (token serial socket : String) (range : PortRange)
    (ports : List Nat) (issued : List Command) (h h' : Host) : Except TunnelError Passage → Prop
  | failed {e : TunnelError} : Classified token range e h' →
      ForwardEnded b token serial socket range ports issued h h' (.error e)
  | opened {port : Nat} {c : Command} : port ∈ ports → issued.getLast? = some c →
      Registered b (.forward serial port socket) c h' →
      (h'.interrupted token = true → Overtaken b token (.forward serial port socket) h h') →
      ForwardEnded b token serial socket range ports issued h h' (.ok (.forward port))

/-- What was issued by the attempts in forward direction, and how that ended. -/
theorem openForward_issues (range : PortRange) (ports : List Nat) :
    ∀ {h h' : Host} {result : Except TunnelError Passage}, ports <:+ range.ports →
      ports ≠ [] ∨ h.interrupted token = false →
      openForward b token serial socket range ports h = .ok result h' →
      ∃ issued, h'.commands = issued.reverse ++ h.commands ∧
        (∀ c ∈ issued, ∃ port, c.argv = b.argv (Action.forward serial port socket).arguments) ∧
        ForwardEnded b token serial socket range ports issued h h' result := by
  induction ports with
  | nil =>
    intro h h' result _ checked returned
    have idle : h.interrupted token = false := by simpa using checked
    unfold openForward at returned
    split at returned <;> cases returned <;> exact ⟨[], rfl, by simp, .failed (.inr ⟨rfl, idle⟩)⟩
  | cons port rest ih =>
    intro h h' result suffix _ returned
    have trying := triedForward b token serial socket range port rest h
    generalize openForward b token serial socket range (port :: rest) h = run at trying returned
    cases trying with
    | refused raised =>
      cases returned
      exact ⟨[], rfl, by simp, .failed (.inl ⟨rfl, raised⟩)⟩
    | @interrupted c _ issued raised =>
      cases returned
      exact ⟨[c], issued.commands, by simpa using ⟨port, issued.argv⟩,
        .failed (.inl ⟨rfl, raised⟩)⟩
    | @opened c _ issued registered overtaken =>
      cases returned
      exact ⟨[c], issued.commands, by simpa using ⟨port, issued.argv⟩,
        .opened List.mem_cons_self rfl registered overtaken⟩
    | @again c h₁ issued course further =>
      have checked : rest ≠ [] ∨ h₁.interrupted token = false :=
        further.imp_left fun left => rest_ne_nil suffix left
      obtain ⟨more, commands, forwards, ended⟩ :=
        ih ((List.suffix_cons port rest).trans suffix) checked returned
      refine ⟨c :: more, by simp [commands, issued.commands], fun c' mem => ?_, ?_⟩
      · obtain rfl | mem := List.mem_cons.mp mem
        · exact ⟨port, issued.argv⟩
        · exact forwards c' mem
      · cases ended with
        | failed classified => exact .failed classified
        | opened mem latest registered overtaken =>
          exact .opened (List.mem_cons_of_mem port mem) (by simp [List.getLast?_cons, latest])
            registered fun raised => (overtaken raised).after course
    | halted => simp at returned

/-- How a whole negotiation ended, given the commands that it issued, the first one first. -/
inductive Settlement (b : Bridge) (token serial socket : String) (range : PortRange)
    (issued : List Command) (h h' : Host) : Except TunnelError Passage → Prop
  | failed {e : TunnelError} :
      Followed b serial socket h' (e = .interrupted ∧ h'.interrupted token = true) issued →
      Tidy h h' → Classified token range e h' →
      Settlement b token serial socket range issued h h' (.error e)
  | reverse {port listener : Nat} {c : Command} : issued.getLast? = some c →
      Registered b (.reverse serial socket port) c h' → (Coherent h → Owned listener h') →
      port ∈ range.ports → BoundFor port listener h' →
      (h.Unstruck .listen → h'.interrupted token = false) →
      Settlement b token serial socket range issued h h' (.ok (.reverse port listener))
  | forward {port : Nat} {c : Command} : issued.getLast? = some c →
      Registered b (.forward serial port socket) c h' → Followed b serial socket h' False issued →
      port ∈ range.ports →
      (h'.interrupted token = true → Overtaken b token (.forward serial port socket) h h') →
      Settlement b token serial socket range issued h h' (.ok (.forward port))

/-- Forward direction settles a negotiation whose earlier registrations were all removed. -/
theorem openForward_settles {range : PortRange} {h h₁ h' : Host} {before : List Command}
    {result : Except TunnelError Passage} (commands : h₁.commands = before.reverse ++ h.commands)
    (course : Relation.ReflTransGen (Step token) h h₁) (tidy : Tidy h h₁)
    (followed : Followed b serial socket h₁ False before)
    (returned : openForward b token serial socket range range.ports h₁ = .ok result h') :
    ∃ issued : List Command, h'.commands = issued.reverse ++ h.commands ∧
      (Coherent h → Coherent h') ∧ Settlement b token serial socket range issued h h' result := by
  have within := (within_openForward range range.ports).ok returned
  have tidy' := tidy.trans (undisturbed_of_commanding within).tidy
  have followed' := followed.onward
    (onward_of_steps ((within_openForward range range.ports).step.ok returned))
  obtain ⟨more, commands', forwards, ended⟩ :=
    openForward_issues range range.ports (List.suffix_refl _) (.inl (ports_ne_nil range)) returned
  refine ⟨before ++ more, by simp [commands, commands'], tidy'.coherent, ?_⟩
  cases ended with
  | failed classified => exact .failed (followed'.forwards forwards) tidy' classified
  | opened mem latest registered overtaken =>
    exact .forward (by simp [latest]) registered (followed'.forwards forwards) mem
      fun raised => (overtaken raised).after course

/-- Every negotiation that returns is settled in one of these ways. -/
theorem negotiate_settles {range : PortRange} {forceForward : Bool} {h h' : Host}
    {result : Except TunnelError Passage}
    (returned : negotiate b token serial socket range forceForward h = .ok result h') :
    ∃ issued : List Command, h'.commands = issued.reverse ++ h.commands ∧
      (Coherent h → Coherent h') ∧ Settlement b token serial socket range issued h h' result := by
  unfold negotiate at returned
  cases forceForward with
  | true => exact openForward_settles rfl .refl (Tidy.refl h) followed_nil returned
  | false =>
    simp only [Bool.false_eq_true, if_false] at returned
    obtain ⟨first, h₁, reversed, returned⟩ := Act.ok_of_bind returned
    have course := (within_openReverse range range.ports).ok reversed
    obtain ⟨issued, commands, ended⟩ := openReverse_issues range range.ports reversed
    cases ended with
    | interrupted raised followed tidy =>
      cases returned
      refine ⟨issued, commands, tidy.coherent, .failed (fun i c at_ registration succeeded => ?_)
        tidy (.inl ⟨rfl, raised⟩)⟩
      obtain next | ⟨-, last⟩ := followed i c at_ registration succeeded
      · exact .inl next
      · exact .inr ⟨⟨rfl, raised⟩, last⟩
    | opened mem latest registered owned bound unraised =>
      cases returned
      exact ⟨issued, commands, fun before => (owned before).1,
        .reverse latest registered (fun before => (owned before).2) mem bound unraised⟩
    | givenUp followed tidy =>
      obtain ⟨_, h₂, said, returned⟩ := Act.ok_of_bind returned
      obtain ⟨h₂', said', quiet⟩ := says_remark .fallback .warn _ h₁
      obtain rfl := (EStateM.Result.ok.inj (said.symm.trans said')).2
      exact openForward_settles (quiet.commands.trans commands)
        (course.trans ((within_remark _ _ _).ok said)) (tidy.trans quiet.toUndisturbed.tidy)
        (followed.onward (quiet.onward token)) returned

theorem establish_open {t : Tunnel} (isOpen : t.enabled = true) (range : PortRange)
    (forceForward : Bool) (h : Host) :
    t.establish b token serial range forceForward h = .ok (.error .alreadyOpen, t) h := by
  unfold establish
  simp only [isOpen, if_true]
  rfl

/-- Establishing a closed tunnel is a negotiation, and the tunnel then leads through its passage. -/
theorem establish_closed {t : Tunnel} (isClosed : t.enabled = false) (range : PortRange)
    (forceForward : Bool) (h : Host) :
    t.establish b token serial range forceForward h =
      match negotiate b token serial t.socket range forceForward h with
      | .ok (.error e) h' => .ok (.ok (.error e), t) h'
      | .ok (.ok passage) h' => .ok (.ok (.ok ()), t.through passage) h'
      | .error halt h' => .error halt h' := by
  unfold establish
  simp only [isClosed, Bool.false_eq_true, if_false]
  rw [Act.bind_apply]
  cases negotiate b token serial t.socket range forceForward h with
  | error halt h' => rfl
  | ok result h' => cases result <;> rfl

/-- Whenever establishing a closed tunnel returns, its negotiation was settled, and the tunnel is
open exactly if that succeeded. -/
theorem establish_settles {t t' : Tunnel} {range : PortRange} {forceForward : Bool} {h h' : Host}
    {result : Except Misuse (Except TunnelError Unit)} (isClosed : t.enabled = false)
    (returned : t.establish b token serial range forceForward h = .ok (result, t') h') :
    ∃ (issued : List Command) (outcome : Except TunnelError Passage),
      h'.commands = issued.reverse ++ h.commands ∧ (Coherent h → Coherent h') ∧
      Settlement b token serial t.socket range issued h h' outcome ∧
      match outcome with
      | .error e => result = .ok (.error e) ∧ t' = t
      | .ok passage => result = .ok (.ok ()) ∧ t' = t.through passage := by
  rw [establish_closed isClosed] at returned
  cases e : negotiate b token serial t.socket range forceForward h with
  | error halt h₁ => simp [e] at returned
  | ok outcome h₁ =>
    obtain ⟨issued, commands, coherent, settlement⟩ := negotiate_settles e
    rw [e] at returned
    cases outcome with
    | error cause =>
      cases returned
      exact ⟨issued, _, commands, coherent, settlement, rfl, rfl⟩
    | ok passage =>
      cases returned
      exact ⟨issued, _, commands, coherent, settlement, rfl, rfl⟩

end DebugBridge.Tunnel
