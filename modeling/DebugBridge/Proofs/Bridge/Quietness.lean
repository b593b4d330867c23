import DebugBridge.Proofs.Cancel.Effect
import DebugBridge.Proofs.Host.Hush

/-!
# Bridge commands that are cancelled

On a host where every command can be started and every kill works, a bridge command that ends as
cancelled has written nothing severe since the interrupt. One that fails for another reason leaves
its token idle, so whatever is warned about afterwards is written before any interrupt.
-/

namespace DebugBridge

open Host

def failedAs {ε α : Type} (kind : ε → Bool) : Except ε α → Bool
  | .error e => kind e
  | .ok _ => false

/-- The token is interrupted, and nothing severe was written since. -/
structure Host.Ceased (token : String) (h h' : Host) : Prop where
  raised : h'.interrupted token = true
  hush : Hush token h h'

theorem Host.Ceased.after {token : String} {h h₁ h' : Host} (ceased : Ceased token h₁ h')
    (hush : Hush token h h₁) : Ceased token h h' :=
  ⟨ceased.raised, hush.trans ceased.hush⟩

namespace Act

variable {α β : Type}

/-- However the activity ends, nothing severe was written after an interrupt, and if it ends as
cancelled there was one. -/
def Hushed (token : String) (cancelled : α → Bool) (m : Act α) : Prop :=
  ∀ h x h', Prompt token h → m h = .ok x h' →
    Prompt token h' ∧ Hush token h h' ∧ (cancelled x = true → h'.interrupted token = true)

/-- If the activity ends as cancelled, there was an interrupt and nothing severe was written after
it. -/
def Ceases (token : String) (cancelled : α → Bool) (m : Act α) : Prop :=
  ∀ h x h', Prompt token h → m h = .ok x h' →
    Prompt token h' ∧ (cancelled x = true → Ceased token h h')

/-- The activity only writes, and it does not end as cancelled. -/
def Never (cancelled : α → Bool) (m : Act α) : Prop :=
  ∀ h x h', m h = .ok x h' → cancelled x = false ∧ ∃ events, h' = { h with events := events }

section rules
variable {token : String} {m : Act α} {f : α → Act β} {kind : α → Bool} {cancelled : β → Bool}

theorem hushed_of_within (within : Within (Hushes token) m)
    (raises : ∀ h x h', m h = .ok x h' → kind x = true → h'.interrupted token = true) :
    Hushed token kind m := by
  intro h x h' prompt ran
  obtain ⟨stays, hush⟩ := hushes_of_run (within.ok ran) prompt
  exact ⟨stays, hush, raises h x h' ran⟩

theorem hushed_pure {a : α} (regular : kind a = false) : Hushed token kind (pure a) :=
  hushed_of_within (within_pure a) fun h x h' ran up => by
    cases ran
    simp [regular] at up

theorem hushed_note {severity : Severity} (text : String)
    (mild : Event.IsMild ⟨severity, text⟩) :
    Hushed token (fun _ => false) (note severity text) := by
  intro h _ h' prompt ran
  cases ran
  exact ⟨prompt.write _, hush_note text mild h, fun up => absurd up Bool.false_ne_true⟩

theorem Hushed.ceases (hushed : Hushed token kind m) : Ceases token kind m :=
  fun h x h' prompt ran =>
    have ⟨stays, hush, raises⟩ := hushed h x h' prompt ran
    ⟨stays, fun up => ⟨raises up, hush⟩⟩

/-- What comes after a cancelled part only has to be hushed. -/
theorem Hushed.bind (first : Hushed token kind m)
    (fails : ∀ a, kind a = true → Hushed token (fun _ => false) (f a))
    (rest : ∀ a, kind a = false → Hushed token cancelled (f a)) :
    Hushed token cancelled (m >>= f) := by
  intro h x h' prompt ran
  obtain ⟨a, h₁, ran₁, ran⟩ := ok_of_bind ran
  obtain ⟨prompt₁, hush₁, raises⟩ := first h a h₁ prompt ran₁
  cases up : kind a with
  | true =>
    obtain ⟨stays, hush, -⟩ := fails a up h₁ x h' prompt₁ ran
    exact ⟨stays, hush₁.trans hush, fun _ => hush.flag (raises up)⟩
  | false =>
    obtain ⟨stays, hush, raises'⟩ := rest a up h₁ x h' prompt₁ ran
    exact ⟨stays, hush₁.trans hush, raises'⟩

theorem Hushed.bind_ceases (first : Hushed token kind m)
    (fails : ∀ a, kind a = true → Hushed token (fun _ => false) (f a))
    (rest : ∀ a, kind a = false → Ceases token cancelled (f a)) :
    Ceases token cancelled (m >>= f) := by
  intro h x h' prompt ran
  obtain ⟨a, h₁, ran₁, ran⟩ := ok_of_bind ran
  obtain ⟨prompt₁, hush₁, raises⟩ := first h a h₁ prompt ran₁
  cases up : kind a with
  | true =>
    obtain ⟨stays, hush, -⟩ := fails a up h₁ x h' prompt₁ ran
    exact ⟨stays, fun _ => ⟨hush.flag (raises up), hush₁.trans hush⟩⟩
  | false =>
    obtain ⟨stays, ceased⟩ := rest a up h₁ x h' prompt₁ ran
    exact ⟨stays, fun up => (ceased up).after hush₁⟩

/-- A part whose result does not matter is hushed. -/
theorem Hushed.next (first : Hushed token (fun _ => false) m)
    (rest : ∀ a, Hushed token cancelled (f a)) : Hushed token cancelled (m >>= f) :=
  first.bind (fun _ up => absurd up Bool.false_ne_true) fun a _ => rest a

theorem Hushed.next_ceases (first : Hushed token (fun _ => false) m)
    (rest : ∀ a, Ceases token cancelled (f a)) : Ceases token cancelled (m >>= f) :=
  first.bind_ceases (fun _ up => absurd up Bool.false_ne_true) fun a _ => rest a

/-- A part that may write something severe at its end is followed by a cancelled end only if it was
cancelled itself. -/
theorem Ceases.bind (first : Ceases token kind m)
    (fails : ∀ a, kind a = true → Hushed token (fun _ => false) (f a))
    (never : ∀ a, kind a = false → Never cancelled (f a)) :
    Ceases token cancelled (m >>= f) := by
  intro h x h' prompt ran
  obtain ⟨a, h₁, ran₁, ran⟩ := ok_of_bind ran
  obtain ⟨prompt₁, ceased⟩ := first h a h₁ prompt ran₁
  cases up : kind a with
  | true =>
    obtain ⟨stays, hush, -⟩ := fails a up h₁ x h' prompt₁ ran
    exact ⟨stays, fun _ => ⟨hush.flag (ceased up).raised, (ceased up).hush.trans hush⟩⟩
  | false =>
    obtain ⟨regular, events, rfl⟩ := never a up h₁ x h' ran
    exact ⟨prompt₁.write events, fun up => by simp [regular] at up⟩

theorem never_pure {a : α} (regular : kind a = false) : Never kind (pure a) := by
  intro h x h' ran
  cases ran
  exact ⟨regular, h.events, rfl⟩

theorem never_bind (notes : Notes m) (rest : ∀ a, Never cancelled (f a)) :
    Never cancelled (m >>= f) := by
  intro h x h' ran
  obtain ⟨a, events, noted⟩ := notes h
  rw [bind_apply, noted] at ran
  obtain ⟨regular, events', e⟩ := rest a _ x h' ran
  exact ⟨regular, events', e⟩

theorem never_note (severity : Severity) (text : String) {a : α} (regular : kind a = false) :
    Never kind (do note severity text; return a) :=
  never_bind (notes_note severity text) fun _ => never_pure regular

theorem Never.ceases (never : Never kind m) : Ceases token kind m := by
  intro h x h' prompt ran
  obtain ⟨regular, events, rfl⟩ := never h x h' ran
  exact ⟨prompt.write events, fun up => by simp [regular] at up⟩

end rules

section results
variable {ε : Type} {token : String} {kind : ε → Bool} {cancelled : β → Bool}
  {m : Act (Except ε α)} {f : Except ε α → Act β} {g : ε → β}

/-- A failure is only passed on, and stays a cancellation if it is one. -/
theorem Hushed.pass (first : Hushed token (failedAs kind) m)
    (passes : ∀ e, f (.error e) = pure (g e)) (same : ∀ e, cancelled (g e) = kind e)
    (rest : ∀ a, Hushed token cancelled (f (.ok a))) : Hushed token cancelled (m >>= f) := by
  refine first.bind (fun x up => ?_) fun x up => ?_
  · cases x with
    | ok a => cases up
    | error e => exact passes e ▸ hushed_pure rfl
  · cases x with
    | ok a => exact rest a
    | error e => exact passes e ▸ hushed_pure ((same e).trans up)

theorem Hushed.pass_ceases (first : Hushed token (failedAs kind) m)
    (passes : ∀ e, f (.error e) = pure (g e)) (same : ∀ e, cancelled (g e) = kind e)
    (rest : ∀ a, Ceases token cancelled (f (.ok a))) : Ceases token cancelled (m >>= f) := by
  refine first.bind_ceases (fun x up => ?_) fun x up => ?_
  · cases x with
    | ok a => cases up
    | error e => exact passes e ▸ hushed_pure rfl
  · cases x with
    | ok a => exact rest a
    | error e => exact passes e ▸ (never_pure ((same e).trans up)).ceases

theorem Ceases.pass (first : Ceases token (failedAs kind) m)
    (passes : ∀ e, f (.error e) = pure (g e)) (same : ∀ e, cancelled (g e) = kind e)
    (rest : ∀ a, Never cancelled (f (.ok a))) : Ceases token cancelled (m >>= f) := by
  refine first.bind (fun x up => ?_) fun x up => ?_
  · cases x with
    | ok a => cases up
    | error e => exact passes e ▸ hushed_pure rfl
  · cases x with
    | ok a => exact rest a
    | error e => exact passes e ▸ never_pure ((same e).trans up)

end results
end Act

section commands
variable {α β : Type} {b : Bridge} {token : String} {h h' : Host}

/-- A command is refused, or it is started. -/
theorem issue_hushed {arguments : List String} {mode : Mode}
    {proceed : Except SpawnError (Nat × Output) → Act (Except BridgeError α)}
    {x : Except BridgeError α} (prompt : Prompt token h)
    (ran : b.issue token arguments mode proceed h = .ok x h') :
    (x = .error .interrupted ∧ h' = h ∧ h.interrupted token = true) ∨
      ∃ started h₁, Hushes token h h₁ ∧ proceed (.ok started) h₁ = .ok x h' := by
  cases idle : h.interrupted token with
  | true =>
    rw [issue_refused idle] at ran
    cases ran
    exact .inl ⟨rfl, rfl, rfl⟩
  | false =>
    obtain ⟨text, issued⟩ := issue_idle b token arguments mode proceed
    rw [issued h idle] at ran
    obtain ⟨started, h₁, spawned, ran⟩ := Act.ok_of_bind ran
    have discreet := discreet_hushes token
    have noted := discreet.detail text h
    have hushed := noted.trans (hushes_of_run ((discreet.spawn _ _).ok spawned))
    obtain ⟨h₂, run, -⟩ := spawn_launched (h := h.note .debug text) token mode
      (prompt.starts _ (b.argv arguments) b.executable)
    rw [run] at spawned
    cases spawned
    exact .inr ⟨_, _, hushed, ran⟩

/-- How a child was looked after: it was cancelled, or its outcome was judged; then the token is
idle, or the child was successful. -/
inductive Attended (token : String) (meanwhile : Act β)
    (finish : Outcome → β → Act (Except BridgeError α)) (h : Host) :
    Except BridgeError α → Host → Prop
  | cancelled {h' : Host} : Prompt token h' → Ceased token h h' →
      Attended token meanwhile finish h (.error .interrupted) h'
  | finished {outcome : Outcome} {result : β} {h₁ h₂ h₃ h' : Host} {x : Except BridgeError α} :
      meanwhile h₁ = .ok result h₂ →
      (outcome.isSuccess = false → h₃.interrupted token = false) → Prompt token h₃ →
      Hush token h h₃ → finish outcome result h₃ = .ok x h' →
      Attended token meanwhile finish h x h'

theorem supervise_attended {child : Nat} {meanwhile : Act β}
    {finish : Outcome → β → Act (Except BridgeError α)} {x : Except BridgeError α}
    (prompt : Prompt token h) (first : Act.Within (Hushes token) meanwhile)
    (ran : Bridge.supervise token child meanwhile finish h = .ok x h') :
    Attended token meanwhile finish h x h' := by
  have discreet := discreet_hushes token
  obtain ⟨armed, h₁, arming, ran⟩ := Act.ok_of_bind ran
  have hushes₁ := hushes_of_run ((discreet.arm _).ok arming)
  cases armed with
  | false =>
    obtain ⟨_, h₂, gone, ran⟩ := Act.ok_of_bind ran
    cases ran
    obtain ⟨stays, hush⟩ := (hushes₁.trans (hushes_of_run (discreet.abandon.ok gone))) prompt
    have raised : h.interrupted token = true := by
      refine Bool.of_not_eq_false fun idle => ?_
      rw [arm_apply idle] at arming
      cases arming
    exact .cancelled stays ⟨hush.flag raised, hush⟩
  | true =>
    obtain ⟨result, h₂, meant, ran⟩ := Act.ok_of_bind ran
    obtain ⟨outcome, h₃, concluded, ran⟩ := Act.ok_of_bind ran
    obtain ⟨stays, hush⟩ := ((hushes₁.trans (hushes_of_run (first.ok meant))).trans
      (hushes_of_run (discreet.conclude.ok concluded))) prompt
    simp only [wasCancelled, Act.bind_apply, Act.isInterrupted_apply, Act.pure_apply] at ran
    cases cancelled : !outcome.isSuccess && h₃.interrupted token with
    | true =>
      simp only [cancelled, if_true] at ran
      cases ran
      exact .cancelled stays ⟨(Bool.and_eq_true_iff.mp cancelled).2, hush⟩
    | false =>
      simp only [cancelled, Bool.false_eq_true, if_false] at ran
      refine .finished meant (fun failed => ?_) stays hush ran
      simpa [failed] using cancelled

/-- An action that fails does so as cancelled exactly if its token is interrupted then. -/
theorem act_hushes {a : Action} {x : Except BridgeError Unit} (prompt : Prompt token h)
    (ran : b.act token a h = .ok x h') :
    Prompt token h' ∧ Hush token h h' ∧
      ∀ e, x = .error e → h'.interrupted token = e.isInterrupted := by
  obtain ⟨rfl, rfl, raised⟩ | ⟨started, h₁, hushes, ran⟩ := issue_hushed prompt ran
  · refine ⟨prompt, Hush.refl token _, fun e eq => ?_⟩
    cases eq
    exact raised
  obtain ⟨prompt₁, hush₁⟩ := hushes prompt
  have attended := supervise_attended prompt₁ (Act.within_pure ()) ran
  cases attended with
  | cancelled stays ceased =>
    refine ⟨stays, hush₁.trans ceased.hush, fun e eq => ?_⟩
    cases eq
    exact ceased.raised
  | @finished outcome _ _ _ h₃ _ _ _ idle stays hush judged =>
    have rules := (discreet_hushes token).sequential
    obtain ⟨stays', hush'⟩ := hushes_of_run ((rules.judge a.name outcome).ok judged) stays
    refine ⟨stays', (hush₁.trans hush).trans hush', fun e eq => ?_⟩
    obtain ⟨events, given⟩ := judge_ok a.name outcome h₃
    rw [given] at judged
    cases judged
    have failed : outcome.isSuccess = false := by
      refine Bool.eq_false_iff.mpr fun success => ?_
      rw [(isSuccess_iff outcome).mp success] at eq
      cases eq
    have other : e.isInterrupted = false := by
      cases e with
      | interrupted => exact absurd eq (verdict_ne_interrupted outcome a.name)
      | _ => rfl
    rw [other]
    exact idle failed

/-- Only an output that is refused makes a query write something severe after an interrupt, and then
it is not cancelled. -/
theorem ask_hushes {q : Query} {x : Except BridgeError String} (prompt : Prompt token h)
    (ran : b.ask token q h = .ok x h') :
    Prompt token h' ∧ (x = .error .interrupted → Ceased token h h') ∧
      (q.excess = .cut → Hush token h h') := by
  obtain ⟨rfl, rfl, raised⟩ | ⟨started, h₁, hushes, ran⟩ := issue_hushed prompt ran
  · exact ⟨prompt, fun _ => ⟨raised, Hush.refl token _⟩, fun _ => Hush.refl token _⟩
  have discreet := discreet_hushes token
  obtain ⟨prompt₁, hush₁⟩ := hushes prompt
  have attended := supervise_attended prompt₁ (discreet.readAll q started.2) ran
  cases attended with
  | cancelled stays ceased =>
    have hush := hush₁.trans ceased.hush
    exact ⟨stays, fun _ => ⟨ceased.raised, hush⟩, fun _ => hush⟩
  | @finished outcome capture _ _ h₃ _ _ read _ stays hush judged =>
    obtain ⟨events, given⟩ := answer_ok q outcome capture h₃
    have answer := judged
    rw [given] at judged
    cases judged
    refine ⟨stays.write events, fun eq => absurd eq (answered_ne_interrupted outcome q capture),
      fun cut => (hush₁.trans hush).trans ?_⟩
    obtain ⟨rfl, -⟩ := (yields_readAll q started.1 started.2).returned _ _ _ read
    have rules := discreet.sequential
    have answers : Act.Within (Hushes token)
        (Bridge.answer q outcome (captured q started.2)) := by
      unfold Bridge.answer
      split
      · exact rules.map _ (rules.judge _ _)
      · next head overflow => exact absurd overflow (captured_ne_overflow cut started.2 head)
      · exact rules.pure _
    exact (hushes_of_run (answers.ok answer) stays).2

theorem interrupted_of_failedAs {x : Except BridgeError α}
    (cancelled : failedAs BridgeError.isInterrupted x = true) : x = .error .interrupted := by
  cases x with
  | ok a => cases cancelled
  | error e => cases e <;> first | rfl | cases cancelled

end commands

section operations
variable (b : Bridge) (token : String)

theorem act_hushed (a : Action) :
    Act.Hushed token (failedAs BridgeError.isInterrupted) (b.act token a) := by
  intro h x h' prompt ran
  obtain ⟨stays, hush, flag⟩ := act_hushes prompt ran
  refine ⟨stays, hush, fun cancelled => ?_⟩
  rw [flag .interrupted (interrupted_of_failedAs cancelled)]
  rfl

theorem ask_ceases (q : Query) :
    Act.Ceases token (failedAs BridgeError.isInterrupted) (b.ask token q) := by
  intro h x h' prompt ran
  obtain ⟨stays, ceased, -⟩ := ask_hushes prompt ran
  exact ⟨stays, fun cancelled => ceased (interrupted_of_failedAs cancelled)⟩

theorem ask_hushed {q : Query} (cut : q.excess = .cut) :
    Act.Hushed token (failedAs BridgeError.isInterrupted) (b.ask token q) := by
  intro h x h' prompt ran
  obtain ⟨stays, ceased, hush⟩ := ask_hushes prompt ran
  exact ⟨stays, hush cut, fun cancelled => (ceased (interrupted_of_failedAs cancelled)).raised⟩

theorem connect_hushed (address : String) :
    Act.Hushed token (failedAs BridgeError.isInterrupted) (b.connect token address) := by
  refine (ask_hushed b token (q := .connect address) rfl).pass (fun _ => rfl) (fun _ => rfl)
    fun output => ?_
  dsimp only
  split
  · exact (Act.hushed_note _ ⟨by simp, by simp⟩).next fun _ => Act.hushed_pure rfl
  · exact Act.hushed_pure rfl

theorem property_hushed (serial name : String) :
    Act.Hushed token (failedAs BridgeError.isInterrupted) (b.property token serial name) :=
  (ask_hushed b token (q := .property serial name) rfl).pass (fun _ => rfl) (fun _ => rfl)
    fun _ => Act.hushed_pure rfl

theorem serialNumber_hushed :
    Act.Hushed token (failedAs BridgeError.isInterrupted) (b.serialNumber token) :=
  (ask_hushed b token (q := .serialNumber) rfl).pass (fun _ => rfl) (fun _ => rfl)
    fun _ => Act.hushed_pure rfl

theorem address_ceases (serial : String) :
    Act.Ceases token (failedAs BridgeError.isInterrupted) (b.address token serial) :=
  (ask_ceases b token (.route serial)).pass (fun _ => rfl) (fun _ => rfl) fun _ =>
    Act.never_bind (Act.notes_noteAll _) fun _ => Act.never_pure rfl

theorem devices_ceases :
    Act.Ceases token (failedAs BridgeError.isInterrupted) (b.devices token) :=
  (ask_ceases b token .devices).pass (fun _ => rfl) (fun _ => rfl) fun _ =>
    Act.never_bind (Act.notes_noteAll _) fun _ => Act.never_pure rfl

theorem choose_ceases (selector : Selector) :
    Act.Ceases token (failedAs ChoiceError.isInterrupted) (b.choose token selector) := by
  refine (devices_ceases b token).bind (fun x up => ?_) fun x up => ?_
  · cases x with
    | ok devices => cases up
    | error cause =>
      have up : cause.isInterrupted = true := up
      simp only [up, if_true]
      exact (Act.hushed_note _ ⟨by simp, by simp⟩).next fun _ => Act.hushed_pure rfl
  · cases x with
    | error cause =>
      dsimp only
      split <;> exact Act.never_note _ _ up
    | ok devices =>
      refine Act.never_bind (Act.notes_note _ _) fun _ => ?_
      split
      · exact Act.never_note _ _ rfl
      · refine Act.never_bind (Act.notes_note _ _) fun _ => ?_
        split
        · exact Act.never_bind (Act.notes_noteAll _) fun _ => Act.never_pure rfl
        · exact Act.never_pure rfl

end operations
end DebugBridge
