import DebugBridge.Proofs.Bridge.Course
import DebugBridge.Proofs.Bridge.Reading

/-!
# How it ends when a child is looked after

A child is given up if its token was interrupted before the token could be armed with it. Otherwise
the outcome of the child is awaited, and a child that did not succeed counts as cancelled once the
token is interrupted. The wait is in vain only for a child that runs and that nobody interrupts.
-/

namespace DebugBridge

open Host Relation

/-- How it ends when a child is looked after. -/
inductive Tended {α : Type} (token : String) (child : Nat) (stuck kills : Prop)
    (result : Outcome → Except BridgeError α) (h : Host) :
    EStateM.Result Halt Host (Except BridgeError α) → Prop
  /-- The token was interrupted before it could be armed. -/
  | abandoned {h' : Host} : h.interrupted token = true → h'.interrupted token = true →
      (h'.children child).killed = true →
      Tended token child stuck kills result h (.ok (.error .interrupted) h')
  | ended {o : Outcome} {x : Except BridgeError α} {h' : Host} : h.interrupted token = false →
      ¬ stuck → (h'.children child).outcome? = some o →
      x = (if !o.isSuccess && h'.interrupted token then .error .interrupted else result o) →
      KilledIf kills token child h h' → OnlyKilled child h h' →
      Tended token child stuck kills result h (.ok x h')
  | stuck {halt : Halt} {h' : Host} : h.interrupted token = false → stuck →
      Tended token child stuck kills result h (.error halt h')
  /-- The child runs, and nobody has interrupted the token. -/
  | running {halt : Halt} {h' : Host} : h.interrupted token = false →
      h'.interrupted token = false → (h'.children child).hasEnded = false → OnlyKilled child h h' →
      Tended token child stuck kills result h (.error halt h')

section tended
variable {α β : Type} {token : String} {child : Nat} {stuck kills : Prop}
  {result : Outcome → Except BridgeError α} {h : Host}

theorem within_conclude_killedIf :
    Act.Within (KilledIf False token child) (conclude token child) :=
  Act.within_bind (within_wait_killedIf false) fun _ =>
    Act.within_bind (Act.within_modify fun _ => killedIf_updateToken rfl) fun _ =>
      Act.within_bind (within_wait_killedIf true) fun _ => Act.within_pure _

/-- Only a child that runs and that nobody has interrupted is waited for in vain. -/
theorem conclude_running {halt : Halt} {h' : Host} (watched : Watched token child h)
    (run : conclude token child h = .error halt h') :
    h'.interrupted token = false ∧ (h'.children child).hasEnded = false := by
  have attentive := attentive_watches token child
  unfold conclude at run
  rw [Act.bind_apply] at run
  obtain ⟨o, h₁, e, outcome⟩ | ⟨halt₁, h₁, e, running⟩ := wait_cases child false h
  · have decided : ((h₁.updateToken token Cancel.Token.disarm).children child).outcome? = some o :=
      outcome
    simp only [e, Act.bind_apply, disarm, Act.modify_apply, Act.pure_apply] at run
    obtain ⟨o', h₂, e', -⟩ | ⟨halt₂, h₂, e', running⟩ :=
      wait_cases child true (h₁.updateToken token Cancel.Token.disarm)
    · simp [e'] at run
    · have quiet := quiet_of_tended ((@within_wait token child true).error e')
      simp [quiet.outcomes child o decided] at running
  · simp only [e] at run
    cases run
    have unended : (h'.children child).hasEnded = false := by simp [Child.hasEnded, running]
    have waited : Act.Within (Watches token child) (wait child false) :=
      within_waiting attentive.toTolerant (Act.within_modify attentive.wait)
    obtain ended | ⟨-, idle⟩ := watches_of_run (waited.error e) watched
    · simp [unended] at ended
    · exact ⟨idle, unended⟩

/-- A child that is given up is killed. -/
theorem abandon_kills (child : Nat) (h : Host) :
    ∃ h', abandon child h = .ok () h' ∧ (h'.children child).killed = true := by
  obtain ⟨o, h', e, -⟩ := abandon_ok child h
  have reaped : Act.Within (Tending "" child) (do let _ ← wait child true) :=
    Act.within_bind (within_wait true) fun _ => Act.within_pure _
  have rest : ReflTransGen (Tending "" child) (Act.after (kill child) h)
      (Act.after (abandon child) h) := by
    refine Act.within_rest (fun fault => ?_) h
    cases fault with
    | none => exact reaped
    | some cause =>
      exact Act.within_bind Act.within_get fun _ =>
        Act.within_bind (within_note (tolerant_tending "" child) _ _) fun _ => reaped
  have killed : ((Act.after (kill child) h).children child).killed = true := by
    simp [Act.after, kill, Act.modifyGet_apply, killChild, updateChild, Child.kill]
  rw [Act.after_ok e] at rest
  exact ⟨h', e, (onlyKilled_of_tended rest child).killed killed⟩

/-- To look after a child is to give it up at once, or to do what is done meanwhile and to judge the
outcome. -/
theorem supervise_ends (token : String) (child : Nat) {meanwhile : Act β}
    {finish : Outcome → β → Act (Except BridgeError α)} {b : β}
    (attended : ∀ R, Attentive child R → Act.Within R meanwhile)
    (yields : Yields child stuck meanwhile b)
    (killed : ∀ h x h', meanwhile h = .ok x h' → KilledIf kills token child h h')
    (judged : ∀ o h, ∃ events, finish o b h = .ok (result o) { h with events := events })
    (h : Host) :
    Tended token child stuck kills result h
      (Bridge.supervise token child meanwhile finish h) := by
  have tolerant := (receptive_killedIf token child).toTolerant
  have watching := attended _ (attentive_watches token child)
  have tending := attended _ (attentive_tending token child)
  unfold Bridge.supervise
  rw [Act.bind_apply]
  cases idle : h.interrupted token with
  | true =>
    obtain ⟨h', e, dead⟩ := abandon_kills child h
    simp only [arm_interrupted idle, Bool.false_eq_true, if_false, Act.bind_apply, e,
      Act.pure_apply]
    have quiet := quiet_of_tended ((@within_abandon token child).ok e)
    exact .abandoned idle (quiet.flags token idle) dead
  | false =>
    obtain ⟨events, armed⟩ := arm_idle (r := .process child) idle
    have watched : Watched token child (({ h with events := events } : Host).updateToken token
        fun t => (t.arm (.process child)).2) := watched_armed idle
    have armedIf : KilledIf False token child h (({ h with events := events } : Host).updateToken
        token fun t => (t.arm (.process child)).2) :=
      (tolerant.write h { h with events := events } (by constructor <;> rfl)).later
        (killedIf_updateToken (Cancel.Token.interrupted_arm _ _))
    have arming := (@within_arm token child).ok armed
    simp only [armed, if_true]
    rw [Act.bind_apply]
    cases run : meanwhile _ with
    | error halt h₁ =>
      have only := onlyKilled_of_tended (arming.trans (tending.error run)) child
      simp only
      obtain stuck | running := yields.halted _ halt h₁ run
      · exact .stuck idle stuck
      · obtain ended | ⟨-, idle₁⟩ := watches_of_run (watching.error run) watched
        · simp [running] at ended
        · exact .running idle idle₁ running only
    | ok b' h₁ =>
      obtain ⟨rfl, free⟩ := yields.returned _ b' h₁ run
      have watched₁ := watches_of_run (watching.ok run) watched
      have tended := arming.trans (tending.ok run)
      simp only [Act.bind_apply]
      cases concluding : conclude token child h₁ with
      | error halt h₂ =>
        obtain ⟨idle₂, running⟩ := conclude_running watched₁ concluding
        exact .running idle idle₂ running
          (onlyKilled_of_tended (tended.trans (within_conclude.error concluding)) child)
      | ok o h₂ =>
        have only : OnlyKilled child h h₂ :=
          onlyKilled_of_tended (tended.trans (within_conclude.ok concluding)) child
        have outcome : (h₂.children child).outcome? = some o := by
          obtain ⟨o', h', e, outcome⟩ | ⟨halt, h', e, -⟩ := conclude_cases token child h₁
          · rw [concluding] at e
            cases e
            exact outcome
          · simp [concluding] at e
        have killedIf : KilledIf kills token child h h₂ :=
          ((armedIf.trans (killed _ _ _ run)).congr (iff_of_eq (false_or kills))).later
            (killedIf_of_run (within_conclude_killedIf.ok concluding))
        simp only [wasCancelled, Act.bind_apply, Act.isInterrupted_apply, Act.pure_apply]
        cases cancelled : !o.isSuccess && h₂.interrupted token with
        | true =>
          simp only [if_true]
          exact .ended idle free outcome (by rw [cancelled, if_pos rfl]) killedIf only
        | false =>
          obtain ⟨events', e⟩ := judged o h₂
          have written := tolerant.write h₂ { h₂ with events := events' } (by constructor <;> rfl)
          have uncancelled : (!o.isSuccess &&
            ({ h₂ with events := events' } : Host).interrupted token) = false := cancelled
          simp only [Bool.false_eq_true, if_false, e]
          exact .ended idle free outcome (by rw [uncancelled, if_neg Bool.false_ne_true])
            (killedIf.later written) only

/-- What is read from the result of a command leaves a cancellation as it is. -/
theorem Tended.read {f : Except BridgeError α → Act (Except BridgeError β)}
    {read : α → Except BridgeError β} {m : Act (Except BridgeError α)}
    (tended : Tended token child stuck kills result h (m h))
    (reads : ∀ x h, ∃ events, f x h = .ok (x >>= read) { h with events := events }) :
    Tended token child stuck kills (fun o => result o >>= read) h ((m >>= f) h) := by
  have tolerant := (receptive_killedIf token child).toTolerant
  rw [Act.bind_apply]
  generalize m h = ending at tended
  cases tended with
  | @abandoned h' raised raised' dead =>
    obtain ⟨events, e⟩ := reads (.error .interrupted) h'
    simp only [e]
    exact .abandoned raised raised' dead
  | @ended o x h' idle free outcome eq killedIf only =>
    obtain ⟨events, e⟩ := reads x h'
    have written := tolerant.write h' { h' with events := events } (by constructor <;> rfl)
    simp only [e]
    refine .ended idle free outcome ?_ (killedIf.later written) only
    change x >>= read = if !o.isSuccess && h'.interrupted token then _ else _
    rw [eq]
    split <;> rfl
  | stuck idle stuck => exact .stuck idle stuck
  | running idle idle' running only => exact .running idle idle' running only

end tended
end DebugBridge
