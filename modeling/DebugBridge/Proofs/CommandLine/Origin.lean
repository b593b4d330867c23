import DebugBridge.Proofs.CommandLine.Program
import DebugBridge.Toml.Codec

/-!
# Where a failure comes from

A failure that the program reports may be wrapped: in remarks on what was going on, in a failed
choice, in a failed switch, in a failed tunnel. Below all wrappings lies its origin, and nothing but
the origin decides whether the program was cancelled and whether it lacks the bridge executable, and
with that how the program ends and what it says.
-/

namespace DebugBridge.CommandLine

open Host

/-- What lies below the wrappings of a failure. -/
inductive Origin where
  | config (e : ConfigError)
  | selection (e : SelectionError)
  | bridge (e : BridgeError)
  | wireless (e : WirelessError)
  | tunnel (e : TunnelError)
  | net (e : NetError)
  | refused (reason : String)
  deriving DecidableEq, Repr

namespace Origin

/-- The origin of a failed choice: the listing may have failed. -/
def ofChoice : ChoiceError → Origin
  | .listing e => .bridge e
  | .selection e => .selection e

/-- The origin of a failed switch: a bridge command may have failed. -/
def ofWireless : WirelessError → Origin
  | .bridge e => .bridge e
  | e => .wireless e

/-- The origin of a failed tunnel: a socket call may have failed. -/
def ofTunnel : TunnelError → Origin
  | .net e => .net e
  | e => .tunnel e

/-- Somebody cancelled a bridge command, the work on a tunnel or a switch. -/
def Cancelled (o : Origin) : Prop :=
  o = .bridge .interrupted ∨ o = .tunnel .interrupted ∨ o = .wireless .interrupted

/-- A bridge command could not be started because there is no such executable. -/
def Unfound (o : Origin) : Prop :=
  ∃ command program, o = .bridge (.spawn command (.missing program))

/-- No cancelled work lacks the executable. -/
theorem Cancelled.not_unfound {o : Origin} (cancelled : o.Cancelled) : ¬ o.Unfound := by
  rintro ⟨command, program, rfl⟩
  simp [Cancelled] at cancelled

def link : Origin → Link
  | .config e => .config e
  | .selection e => .choice (.selection e)
  | .bridge e => .bridge e
  | .wireless e => .wireless e
  | .tunnel e => .tunnel e
  | .net e => .net e
  | .refused reason => .remark reason

end Origin

def Failure.origin : Failure → Origin
  | .config e => .config e
  | .choice e => .ofChoice e
  | .bridge e => .bridge e
  | .wireless e => .ofWireless e
  | .tunnel e => .ofTunnel e
  | .refused reason => .refused reason
  | .during _ cause => cause.origin

/-! ### What a chain says -/

/-- Something is said by the parts of a chain in such a way that a wrapping says nothing that is not
said by what it wraps, and no part behind an origin says it. -/
structure Wrapped (tells : Link → Bool) : Prop where
  remark : ∀ text, tells (.remark text) = false
  listing : ∀ e, tells (.choice (.listing e)) = true → tells (.bridge e) = true
  switch : ∀ e, tells (.wireless (.bridge e)) = tells (.bridge e)
  tunnel : ∀ e, tells (.tunnel (.net e)) = false
  spawn : ∀ e, tells (.spawn e) = false
  fault : ∀ e, tells (.fault e) = false

theorem wrapped_isInterrupted : Wrapped Link.isInterrupted where
  remark _ := rfl
  listing _ said := said
  switch _ := rfl
  tunnel _ := rfl
  spawn _ := rfl
  fault _ := rfl

theorem wrapped_isMissingBinary : Wrapped Link.isMissingBinary where
  remark _ := rfl
  listing _ said := absurd said Bool.false_ne_true
  switch _ := rfl
  tunnel _ := rfl
  spawn _ := rfl
  fault _ := rfl

section chain
variable {tells : Link → Bool} (wrapped : Wrapped tells)
include wrapped

theorem any_tail_ofBridge (e : BridgeError) : (Link.ofBridge e).tail.any tells = false := by
  cases e with
  | spawn command cause => cases cause <;> simp [Link.ofBridge, Link.ofSpawn, wrapped.spawn,
      wrapped.fault]
  | io command cause => simp [Link.ofBridge, wrapped.fault]
  | _ => rfl

theorem any_ofBridge (e : BridgeError) : (Link.ofBridge e).any tells = tells (.bridge e) := by
  have head : Link.ofBridge e = .bridge e :: (Link.ofBridge e).tail := rfl
  rw [head, List.any_cons, any_tail_ofBridge wrapped, Bool.or_false]

/-- What a chain says is what the origin of the failure says. -/
theorem any_chain (f : Failure) : f.chain.any tells = tells f.origin.link := by
  -- By induction on the remarks around the failure; below them one case for each kind.
  induction f with
  | during context cause ih =>
    rw [Failure.chain_during, List.any_cons, wrapped.remark, Bool.false_or, ih]
    rfl
  | bridge e => exact any_ofBridge wrapped e
  | choice e =>
    cases e with
    | selection e => exact Bool.or_false _
    | listing e =>
      have chain : (Failure.choice (.listing e)).chain = .choice (.listing e) :: Link.ofBridge e :=
        rfl
      rw [chain, List.any_cons, any_ofBridge wrapped]
      exact Bool.or_eq_right_iff_imp.mpr (wrapped.listing e)
  | wireless e =>
    cases e with
    | bridge e =>
      have chain : (Failure.wireless (.bridge e)).chain =
          .wireless (.bridge e) :: (Link.ofBridge e).tail := rfl
      rw [chain, List.any_cons, any_tail_ofBridge wrapped, wrapped.switch, Bool.or_false]
      rfl
    | _ => exact Bool.or_false _
  | tunnel e =>
    cases e with
    | net e =>
      have chain : (Failure.tunnel (.net e)).chain = .tunnel (.net e) :: Link.ofNet e := rfl
      rw [chain, List.any_cons, wrapped.tunnel, Bool.false_or]
      cases e with
      | interrupted => exact Bool.or_false _
      | io operation endpoint cause => simp [Link.ofNet, wrapped.fault, Failure.origin,
          Origin.ofTunnel, Origin.link]
    | _ => exact Bool.or_false _
  | config e =>
    cases e with
    | io path cause => simp [Failure.chain, Link.ofConfig, wrapped.fault, Failure.origin,
        Origin.link]
    | _ => exact Bool.or_false _
  | refused reason => exact Bool.or_false _

end chain

/-- No origin is a wrapping. -/
theorem Failure.origin_ne (f : Failure) :
    (∀ e, f.origin ≠ .wireless (.bridge e)) ∧ ∀ e, f.origin ≠ .tunnel (.net e) := by
  induction f with
  | during context cause ih => exact ih
  | choice e => cases e <;> simp [origin, Origin.ofChoice]
  | wireless e => cases e <;> simp [origin, Origin.ofWireless]
  | tunnel e => cases e <;> simp [origin, Origin.ofTunnel]
  | _ => simp [origin]

/-- Whether the program was cancelled is a matter of the origin of its failure. -/
theorem Failure.isInterrupted_iff (f : Failure) :
    f.isInterrupted = true ↔ f.origin.Cancelled := by
  rw [Failure.isInterrupted, any_chain wrapped_isInterrupted]
  have bare := f.origin_ne
  generalize f.origin = o at bare
  cases o with
  | bridge e =>
    cases e <;> simp [Origin.link, Link.isInterrupted, BridgeError.isInterrupted, Origin.Cancelled]
  | wireless e =>
    cases e with
    | bridge e => exact absurd rfl (bare.1 e)
    | _ => simp [Origin.link, Link.isInterrupted, WirelessError.isInterrupted, Origin.Cancelled]
  | tunnel e =>
    cases e <;> simp [Origin.link, Link.isInterrupted, TunnelError.isInterrupted, Origin.Cancelled]
  | _ => simp [Origin.link, Link.isInterrupted, ChoiceError.isInterrupted, Origin.Cancelled]

/-- Whether the program lacks the bridge executable is a matter of the origin of its failure. -/
theorem Failure.isMissingBinary_iff (f : Failure) :
    f.isMissingBinary = true ↔ f.origin.Unfound := by
  rw [Failure.isMissingBinary, any_chain wrapped_isMissingBinary]
  have bare := f.origin_ne
  generalize f.origin = o at bare
  cases o with
  | bridge e =>
    cases e with
    | spawn command cause =>
      cases cause <;>
        simp [Origin.link, Link.isMissingBinary, BridgeError.isMissingBinary, Origin.Unfound]
    | _ => simp [Origin.link, Link.isMissingBinary, BridgeError.isMissingBinary, Origin.Unfound]
  | wireless e =>
    cases e with
    | bridge e => exact absurd rfl (bare.1 e)
    | _ => simp [Origin.link, Link.isMissingBinary, Origin.Unfound]
  | _ => simp [Origin.link, Link.isMissingBinary, Origin.Unfound]

/-! ### What the program makes of it -/

/-- What the user can do about a missing executable. -/
def hint (b : Bridge) : String :=
  s!"adb executable '{b.executable}' not found; " ++
    s!"pass --adb PATH or set ${executableVariable}"

/-- How the program ends after its command: its exit code, and what it complains about. -/
structure Finish (b : Bridge) (result : Except Failure Unit) (code : Nat)
    (complaint : List String) : Prop where
  /-- Success is success of the command or its cancellation. -/
  success : code = 0 ↔ result = .ok () ∨ ∃ f, result = .error f ∧ f.origin.Cancelled
  silent : code = 0 → complaint = []
  /-- The hint is added where the executable is missing. -/
  hinted : ∀ f, result = .error f → f.origin.Unfound →
    code = 1 ∧ complaint = (Failure.during (hint b) f).report
  /-- Every other failure is reported as it is. -/
  plain : ∀ f, result = .error f → ¬ f.origin.Cancelled → ¬ f.origin.Unfound →
    code = 1 ∧ complaint = f.report

theorem finish_ok (b : Bridge) : Finish b (.ok ()) 0 [] where
  success := by simp
  silent _ := rfl
  hinted f eq := nomatch eq
  plain f eq := nomatch eq

theorem finish_cancelled (b : Bridge) {f : Failure} (cancelled : f.origin.Cancelled) :
    Finish b (.error f) 0 [] where
  success := ⟨fun _ => .inr ⟨f, rfl, cancelled⟩, fun _ => rfl⟩
  silent _ := rfl
  hinted g eq unfound := by
    cases eq
    exact absurd unfound cancelled.not_unfound
  plain g eq regular := by
    cases eq
    exact absurd cancelled regular

theorem finish_failed (b : Bridge) {f : Failure} (regular : ¬ f.origin.Cancelled) :
    Finish b (.error f) 1 (withHint b f).report where
  success := by
    refine ⟨nofun, fun ended => ?_⟩
    obtain eq | ⟨g, eq, cancelled⟩ := ended
    · cases eq
    · cases eq
      exact absurd cancelled regular
  silent := nofun
  hinted g eq unfound := by
    cases eq
    have missing : f.isMissingBinary = true := f.isMissingBinary_iff.mpr unfound
    refine ⟨rfl, ?_⟩
    rw [withHint, if_pos missing]
    rfl
  plain g eq _ found := by
    cases eq
    have present : ¬ f.isMissingBinary = true := fun missing =>
      found (f.isMissingBinary_iff.mp missing)
    refine ⟨rfl, ?_⟩
    rw [withHint, if_neg present]

/-- Whatever a command results in, the program finishes in this way, and does nothing else. -/
theorem settled_finishes (b : Bridge) (files : Files) (x : Except Failure Unit) (h : Host) :
    ∃ code complaint events,
      (do return (← conclude (← settle b x), files) : Act (Nat × Files)) h =
        .ok (code, files) { h with events := events, stderr := complaint.reverse ++ h.stderr } ∧
      Finish b x code complaint := by
  cases x with
  | ok => exact ⟨0, [], h.events, rfl, finish_ok b⟩
  | error f =>
    cases raised : f.isInterrupted with
    | true =>
      refine ⟨0, [], (h.note .info "interrupted").events, ?_,
        finish_cancelled b (f.isInterrupted_iff.mp raised)⟩
      simp only [settle, raised, if_true]
      rfl
    | false =>
      have regular : ¬ f.origin.Cancelled := fun cancelled => by
        simp [f.isInterrupted_iff.mpr cancelled] at raised
      refine ⟨1, (withHint b f).report, h.events, ?_, finish_failed b regular⟩
      simp only [settle, raised, Bool.false_eq_true, if_false, conclude, Act.bind_apply,
        Act.pure_apply, complain_all]

/-- The origin of a failure decides alone what it counts as. Every failure that a command of the
program can return is classified so, however it is wrapped, and the program finishes accordingly. -/
theorem origin_decides {codec : Toml.Codec} {env : Environment} {files : Files}
    {i : Invocation} {command : Command} {c : Config} (task : i.task = .command command)
    (loaded : (env.configPath i.config?).bind (Config.load codec files) = .ok c) (h : Host) :
    (∀ f : Failure, (f.isInterrupted = true ↔ f.origin.Cancelled) ∧
      (f.isMissingBinary = true ↔ f.origin.Unfound) ∧
      ¬ (f.isInterrupted = true ∧ f.isMissingBinary = true)) ∧
    let b := bridgeInForce env i c
    match command.run c b (Act.after (announce b) h) with
    | .error halt h₁ => i.run codec env files h = .error halt h₁
    | .ok result h₁ => ∃ code complaint events,
        i.run codec env files h = .ok (code, files)
          { h₁ with events := events, stderr := complaint.reverse ++ h₁.stderr } ∧
        Finish b result code complaint := by
  refine ⟨fun f => ⟨f.isInterrupted_iff, f.isMissingBinary_iff, fun ⟨raised, missing⟩ => ?_⟩, ?_⟩
  · have cancelled := f.isInterrupted_iff.mp raised
    exact cancelled.not_unfound (f.isMissingBinary_iff.mp missing)
  · intro b
    have run := run_announced task loaded h
    rw [Act.bind_apply] at run
    cases e : command.run c b (Act.after (announce b) h) with
    | error halt h₁ =>
      rw [e] at run
      exact run
    | ok result h₁ =>
      rw [e] at run
      obtain ⟨code, complaint, events, settled, finish⟩ := settled_finishes b files result h₁
      exact ⟨code, complaint, events, run.trans settled, finish⟩

def unequipped : Host := { backend := fun _ _ => { fate := .missing } }

/-- The command that chooses a device, without options. -/
def plainSelect : Invocation :=
  { config? := some "adbtun.toml", task := .command (.select none) }

/-- A choice that fails for want of the executable is reported with the hint. -/
theorem origin_decides_unequipped :
    let f : Failure := .choice (.listing (.spawn "devices" (.missing "adb")))
    f.origin.Unfound ∧ f.isMissingBinary = true ∧ f.isInterrupted = false ∧
    ∃ h', plainSelect.run Toml.codec {} {} unequipped = .ok (1, {}) h' ∧
      h'.stderr = (Failure.during (hint {}) f).report.reverse := by
  intro f
  have unfound : f.origin.Unfound := ⟨"devices", "adb", rfl⟩
  have task : plainSelect.task = .command (.select none) := rfl
  have loaded : (Environment.configPath {} plainSelect.config?).bind (Config.load Toml.codec {}) =
      .ok {} := by decide +kernel
  obtain ⟨classified, ran⟩ := origin_decides task loaded unequipped
  obtain ⟨-, missing, apart⟩ := classified f
  have bridge : bridgeInForce {} plainSelect {} = {} := by decide
  have returned : (Command.select none).run {} {} (Act.after (announce {}) unequipped) =
      .ok (.error f) (Act.after ((Command.select none).run {} {})
        (Act.after (announce {}) unequipped)) := Act.of_returned? (by decide +kernel)
  have silent : (Act.after ((Command.select none).run {} {})
      (Act.after (announce {}) unequipped)).stderr = [] := by decide +kernel
  simp only [bridge, returned] at ran
  obtain ⟨code, complaint, events, run, finish⟩ := ran
  obtain ⟨rfl, rfl⟩ := finish.hinted f rfl unfound
  refine ⟨unfound, missing.mpr unfound, ?_, _, run, ?_⟩
  · exact Bool.eq_false_iff.mpr fun raised => apart ⟨raised, missing.mpr unfound⟩
  · simp only [silent, List.append_nil]

end DebugBridge.CommandLine
