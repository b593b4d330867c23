import DebugBridge.Proofs.Host.Diagnostics
import DebugBridge.Proofs.Host.Kills

/-!
# What is written after an interrupt

The host keeps what had been written when a token was interrupted, so what was written since then
can be told. `Hush` says that since then there were no warnings and no errors. On a host where every
kill works, everything that is done through a token keeps to this, because it warns only while the
token is not interrupted; only an interrupt between the last look at the token and the warning is
noticed too late for that.
-/

namespace DebugBridge

open Relation

def Event.IsMild (e : Event) : Prop := e.severity ≠ .error ∧ e.severity ≠ .warn

namespace Host

/-- Every command can be started, and every kill works and reports no fault. -/
structure Reliable (h : Host) : Prop where
  starts : ∀ earlier argv program, (h.backend earlier argv).fate.spawnError? program = none
  kills : h.killFault? = none
  children : ∀ id, (h.children id).killFault? = none

/-- The moments between the end of a command and the words about it. -/
def Point.isRemark : Point → Bool
  | .failure | .retry | .fallback => true
  | _ => false

/-- Nor is the token interrupted after the end of a command and before the words about it, unless it
was before. -/
structure Prompt (token : String) (h : Host) : Prop extends Reliable h where
  unstruck : h.interrupted token = false →
    ∀ s ∈ h.strikes, s.token = token → s.later = false → s.point.isRemark = false

/-- Since these events, neither warnings nor errors were written. -/
def MildSince (events : List Event) (h : Host) : Prop :=
  ∃ later, h.events = later ++ events ∧ ∀ e ∈ later, e.IsMild

/-- A time in which nothing severe was written after a token was interrupted: after its beginning,
if the token was interrupted before; otherwise after the interrupt, if there was one. -/
structure Hush (token : String) (h h' : Host) : Prop where
  grown : h.events <:+ h'.events
  flag : h.interrupted token = true → h'.interrupted token = true
  foreword : h.interrupted token = true → h'.foreword token = h.foreword token
  raised : h.interrupted token = true → MildSince h.events h'
  struck : h.interrupted token = false → h'.interrupted token = true →
    h.events <:+ h'.foreword token ∧ MildSince (h'.foreword token) h'

variable {token : String} {h h' h₁ h₂ h₃ : Host} {events : List Event}

theorem MildSince.trans (a : MildSince events h) (b : MildSince h.events h') :
    MildSince events h' := by
  obtain ⟨first, eq, mild⟩ := a
  obtain ⟨later, eq', mild'⟩ := b
  refine ⟨later ++ first, by rw [eq', eq, List.append_assoc], fun e mem => ?_⟩
  exact (List.mem_append.mp mem).elim (mild' e) (mild e)

theorem Hush.refl (token : String) (h : Host) : Hush token h h where
  grown := List.suffix_refl _
  flag := id
  foreword _ := rfl
  raised _ := ⟨[], rfl, by simp⟩
  struck idle up := by simp [idle] at up

theorem Hush.trans (a : Hush token h₁ h₂) (b : Hush token h₂ h₃) : Hush token h₁ h₃ where
  grown := a.grown.trans b.grown
  flag := b.flag ∘ a.flag
  foreword up := (b.foreword (a.flag up)).trans (a.foreword up)
  raised up := (a.raised up).trans (b.raised (a.flag up))
  struck idle up := by
    cases between : h₂.interrupted token with
    | false =>
      obtain ⟨grown, mild⟩ := b.struck between up
      exact ⟨a.grown.trans grown, mild⟩
    | true =>
      rw [b.foreword between]
      obtain ⟨grown, mild⟩ := a.struck idle between
      exact ⟨grown, mild.trans (b.raised between)⟩

/-- As long as a token is not interrupted, anything may be written. -/
theorem hush_idle (idle : h.interrupted token = false) (idle' : h'.interrupted token = false)
    (grown : h.events <:+ h'.events) : Hush token h h' := by
  refine ⟨grown, fun up => ?_, fun up => ?_, fun up => ?_, fun _ up => ?_⟩
  all_goals simp_all

/-- Mild events may be written at any time. -/
theorem hush_mild (same : h'.interrupted token = h.interrupted token)
    (foreword : h'.foreword token = h.foreword token) (mild : MildSince h.events h') :
    Hush token h h' := by
  obtain ⟨later, eq, -⟩ := id mild
  refine ⟨⟨later, eq.symm⟩, same.trans, fun _ => foreword, fun _ => mild, fun idle up => ?_⟩
  simp_all

theorem hush_note {severity : Severity} (text : String)
    (mild : Event.IsMild ⟨severity, text⟩) (h : Host) : Hush token h (h.note severity text) :=
  hush_mild rfl rfl ⟨[⟨severity, text⟩], rfl, by simpa using mild⟩

theorem hush_noteIdle {severity : Severity} {text : String}
    (idle : h.interrupted token = false) : Hush token h (h.note severity text) :=
  hush_idle idle idle ⟨[_], rfl⟩

theorem hush_unnoticed (same : Unnoticed h h') : Hush token h h' :=
  hush_mild (same.flags token) (congrFun same.foreword token) ⟨[], same.events, by simp⟩

theorem Reliable.unnoticed (reliable : Reliable h) (same : Unnoticed h h') : Reliable h' :=
  ⟨same.backend ▸ reliable.starts, same.killFault?.trans reliable.kills,
    fun id => (same.faults id).trans (reliable.children id)⟩

theorem Prompt.write (prompt : Prompt token h) (events : List Event) :
    Prompt token { h with events := events } :=
  ⟨⟨prompt.starts, prompt.kills, prompt.children⟩, prompt.unstruck⟩

/-- Strikes only become fewer, and flags stay up. -/
theorem Prompt.after (prompt : Prompt token h) (reliable : Reliable h')
    (strikes : h'.strikes.Sublist h.strikes)
    (flag : h.interrupted token = true → h'.interrupted token = true) : Prompt token h' := by
  refine ⟨reliable, fun idle' s mem => prompt.unstruck ?_ s (strikes.subset mem)⟩
  exact Bool.eq_false_iff.mpr fun up => by simp [flag up] at idle'

theorem Prompt.unnoticed (prompt : Prompt token h) (same : Unnoticed h h') : Prompt token h' :=
  prompt.after (prompt.toReliable.unnoticed same) same.strikes (same.flags token).trans

/-- A remark does not interrupt an idle token. -/
theorem Prompt.struckAt (prompt : Prompt token h) (idle : h.interrupted token = false)
    {point : Point} (remark : point.isRemark = true) (command : Nat) :
    h.struckAt token command point = false := by
  refine List.any_eq_false.mpr fun s mem now => ?_
  simp only [Bool.and_eq_true, decide_eq_true_eq, Bool.not_eq_true'] at now
  obtain ⟨⟨⟨-, rfl⟩, own⟩, atOnce⟩ := now
  rw [prompt.unstruck idle s mem own atOnce] at remark
  cases remark

theorem foreword_raise (name : String) (h : Host) : (h.raise name).foreword =
    if h.interrupted name then h.foreword else assign h.foreword name h.events := rfl

theorem foreword_interrupt (name : String) (h : Host) :
    (h.interrupt name).foreword = (h.raise name).foreword := by
  obtain ⟨events, e⟩ := interrupt_eq name h
  rw [e]
  change (h.cut name).foreword = _
  unfold cut
  split
  · rfl
  · obtain ⟨sockets, shut⟩ := shutDown_eq _ (h.emptied name)
    rw [shut]
    rfl
  · rfl

/-- An interrupt has no influence on what becomes of commands and on what kills report. -/
theorem Reliable.interrupt (reliable : Reliable h) (name : String) :
    Reliable (h.interrupt name) := by
  obtain ⟨events, e⟩ := interrupt_eq name h
  have emptied : (h.emptied name).killFault? = h.killFault? ∧
      (h.emptied name).children = h.children := by
    rw [emptied_eq]
    exact ⟨rfl, rfl⟩
  have kept : (h.cut name).killFault? = h.killFault? ∧
      ∀ id, ((h.cut name).children id).killFault? = (h.children id).killFault? := by
    unfold cut
    split
    · exact ⟨emptied.1, fun id => by rw [emptied.2]⟩
    · obtain ⟨sockets, shut⟩ := shutDown_eq _ (h.emptied name)
      rw [shut]
      exact ⟨emptied.1, fun id => by rw [emptied.2]⟩
    · have killed := unnoticed_kill ‹Nat› (h.emptied name)
      exact ⟨killed.killFault?.trans emptied.1, fun id =>
        (killed.faults id).trans (by rw [emptied.2])⟩
  refine ⟨(quiet_interrupt name h).backend ▸ reliable.starts, ?_, fun id => ?_⟩
  · rw [e]
    exact kept.1.trans reliable.kills
  · rw [e]
    exact (kept.2 id).trans (reliable.children id)

theorem Prompt.interrupt (prompt : Prompt token h) (name : String) :
    Prompt token (h.interrupt name) :=
  prompt.after (prompt.toReliable.interrupt name) (quiet_interrupt name h).strikes
    ((quiet_interrupt name h).flags token)

/-- After an interrupt the foreword of its token is what had been written then. -/
theorem hush_interrupt (name : String) (tokens : h'.tokens = (h.interrupt name).tokens)
    (foreword : h'.foreword = (h.interrupt name).foreword) (mild : MildSince h.events h') :
    Hush token h h' := by
  have flag : h'.interrupted token = (h.interrupted token || decide (name = token)) := by
    rw [← interrupted_interrupt_eq, interrupted, tokens]
    rfl
  rw [foreword_interrupt] at foreword
  by_cases own : name = token
  · subst own
    obtain ⟨later, eq, -⟩ := id mild
    refine ⟨⟨later, eq.symm⟩, fun up => by simp [flag], fun up => ?_, fun _ => mild,
      fun idle _ => ?_⟩
    · rw [foreword, foreword_raise, if_pos up]
    · have written : h'.foreword name = h.events := by
        rw [foreword, foreword_raise, if_neg (by simp [idle]), assign_same]
      exact ⟨written ▸ List.suffix_refl _, written ▸ mild⟩
  · refine hush_mild (by simp [flag, own]) ?_ mild
    rw [foreword, foreword_raise]
    split
    · rfl
    · exact assign_other _ (Ne.symm own)

theorem Reliable.mild_interrupt (reliable : Reliable h) (name : String) :
    MildSince h.events (h.interrupt name) := by
  refine wrote_interrupt (fun text => ⟨by simp, by simp⟩) ?_ name
  rintro ⟨id, faulty⟩
  exact absurd (reliable.children id) faulty

/-- Every child inherits how kills report. -/
theorem Reliable.start (reliable : Reliable h) (argv : List String) (mode : Mode) :
    Reliable (h.start argv mode).2 ∧ (h.start argv mode).2.events = h.events ∧
      (h.start argv mode).2.foreword = h.foreword ∧ (h.start argv mode).2.tokens = h.tokens ∧
      (h.start argv mode).2.strikes = h.strikes := by
  cases argv with
  | nil => exact ⟨reliable, rfl, rfl, rfl, rfl⟩
  | cons program arguments =>
    have works := reliable.starts (h.commands.map (·.argv)) (program :: arguments) program
    obtain ⟨pid, stdout, eq⟩ := start_child works mode
    rw [eq]
    refine ⟨⟨reliable.starts, reliable.kills, fun id => ?_⟩, rfl, rfl, rfl, rfl⟩
    by_cases new : id = h.childCount
    · subst new
      dsimp only
      rw [assign_same]
      exact reliable.kills
    · dsimp only
      rw [assign_other _ new]
      exact reliable.children id

/-- What keeps a host reliable and prompt, and is hushed on such a host. -/
def Hushes (token : String) (h h' : Host) : Prop :=
  Prompt token h → Prompt token h' ∧ Hush token h h'

theorem Hushes.trans (a : Hushes token h₁ h₂) (b : Hushes token h₂ h₃) : Hushes token h₁ h₃ := by
  intro prompt
  obtain ⟨prompt, first⟩ := a prompt
  obtain ⟨prompt, later⟩ := b prompt
  exact ⟨prompt, first.trans later⟩

theorem hushes_of_run (run : ReflTransGen (Hushes token) h h') : Hushes token h h' := by
  induction run with
  | refl => exact fun prompt => ⟨prompt, Hush.refl token h⟩
  | tail _ step ih => exact ih.trans step

theorem discreet_hushes (token : String) : Discreet token (Hushes token) where
  unnoticed h h' same prompt := ⟨prompt.unnoticed same, hush_unnoticed same⟩
  detail text h prompt := ⟨prompt.write _, hush_note text ⟨by simp, by simp⟩ h⟩
  rearming text h idle prompt := ⟨prompt.write _, hush_noteIdle idle⟩
  interrupt name h prompt :=
    ⟨prompt.interrupt name, hush_interrupt name rfl rfl (prompt.toReliable.mild_interrupt name)⟩
  outside name h prompt :=
    ⟨(prompt.interrupt name).write _, hush_interrupt name rfl rfl ⟨[], rfl, by simp⟩⟩
  start argv mode h prompt := by
    obtain ⟨stays, events, foreword, tokens, strikes⟩ := prompt.toReliable.start argv mode
    have flag : (h.start argv mode).2.interrupted token = h.interrupted token :=
      congrArg (fun tokens => (tokens token).interrupted) tokens
    exact ⟨prompt.after stays (strikes ▸ .refl _) flag.trans,
      hush_mild flag (congrFun foreword token) ⟨[], events, by simp⟩⟩

end Host
end DebugBridge
