import DebugBridge.Proofs.Bridge.Verdict
import DebugBridge.Proofs.Host.Kills

/-!
# What is read of an output

An activity that reads the output of a child can return only one value, whatever happens meanwhile:
what a query captures is a function of the output. It is blocked for good by a child that runs on,
or by a pipe that is never closed.
-/

namespace DebugBridge

open Host Relation

def Ending.result : Ending → Except Fault Unit
  | .broken cause => .error cause
  | _ => .ok ()

def captured (q : Query) (output : Output) : Except Fault Capture :=
  match (readBounded (output.visible q.limit) q.limit).1, q.excess with
  | .overflow head, .refuse => .ok (.overflow head)
  | .overflow head, .cut => output.ending.result.map fun _ => .complete head
  | .complete bytes, _ => output.ending.result.map fun _ => .complete bytes

/-- Where only the head of an output counts, no output is too large. -/
theorem captured_ne_overflow {q : Query} (cut : q.excess = .cut) (output : Output)
    (head : List UInt8) : captured q output ≠ .ok (.overflow head) := by
  unfold captured
  rw [cut]
  split
  · next eq => cases eq
  · cases output.ending.result <;> exact nofun
  · cases output.ending.result <;> exact nofun

/-- Whether a query waits for the end of an output that has none. -/
def Unending (q : Query) (output : Output) : Prop :=
  output.ending = .held ∧ isUnfinished (captured q output) = false

/-- The activity can only return this value, and it does so unless the child goes on running or the
condition holds. -/
structure Yields {α : Type} (child : Nat) (stuck : Prop) (m : Act α) (a : α) : Prop where
  returned : ∀ h x h', m h = .ok x h' → x = a ∧ ¬ stuck
  halted : ∀ h halt h', m h = .error halt h' → stuck ∨ (h'.children child).hasEnded = false

section yields
variable {α β : Type} {child : Nat} {stuck stuck' : Prop} {m : Act α} {f : α → Act β} {a : α}
  {b : β}

theorem Yields.congr (yields : Yields child stuck m a) (iff : stuck ↔ stuck') :
    Yields child stuck' m a :=
  iff_iff_eq.mp iff ▸ yields

theorem yields_pure (a : α) : Yields child False (pure a : Act α) a where
  returned h x h' run := by
    rw [Act.pure_apply] at run
    cases run
    exact ⟨rfl, id⟩
  halted h halt h' run := by
    rw [Act.pure_apply] at run
    cases run

theorem yields_bind (first : Yields child stuck m a) (rest : Yields child stuck' (f a) b) :
    Yields child (stuck ∨ stuck') (m >>= f) b where
  returned h x h' run := by
    obtain ⟨x', h₁, run₁, run⟩ := Act.ok_of_bind run
    obtain ⟨rfl, free⟩ := first.returned h x' h₁ run₁
    obtain ⟨rfl, free'⟩ := rest.returned h₁ x h' run
    exact ⟨rfl, not_or.mpr ⟨free, free'⟩⟩
  halted h halt h' run := by
    rw [Act.bind_apply] at run
    cases e : m h with
    | ok x' h₁ =>
      obtain ⟨rfl, -⟩ := first.returned h x' h₁ e
      rw [e] at run
      exact (rest.halted h₁ halt h' run).imp_left .inr
    | error halt' h₁ =>
      rw [e] at run
      cases run
      exact (first.halted h halt h' e).imp_left .inl

/-- What follows does not get stuck. -/
theorem yields_then (first : Yields child stuck m a) (rest : Yields child False (f a) b) :
    Yields child stuck (m >>= f) b :=
  (yields_bind first rest).congr (or_iff_left id)

theorem yields_map (first : Yields child stuck m a) (g : α → β) :
    Yields child stuck (g <$> m) (g a) :=
  yields_then first (yields_pure (g a))

/-- What always returns may come first, whatever it returns. -/
theorem yields_after (first : ∀ h, ∃ x h', m h = .ok x h')
    (rest : ∀ x, Yields child stuck (f x) b) : Yields child stuck (m >>= f) b where
  returned h x h' run := by
    obtain ⟨x', h₁, e⟩ := first h
    rw [Act.bind_apply, e] at run
    exact (rest x').returned h₁ x h' run
  halted h halt h' run := by
    obtain ⟨x', h₁, e⟩ := first h
    rw [Act.bind_apply, e] at run
    exact (rest x').halted h₁ halt h' run

theorem yields_awaitEnd : Yields child False (awaitEnd child) () where
  returned _ _ _ _ := ⟨rfl, id⟩
  halted h halt h' run := by
    obtain ⟨h₁, e, -⟩ | ⟨halt', h₁, e, running⟩ :=
      blockUntil_cases (fun h => (h.children child).hasEnded) h
    · rw [awaitEnd, e] at run
      cases run
    · rw [awaitEnd, e] at run
      cases run
      exact .inr running

theorem yields_blockForever : Yields child True blockForever () where
  returned h x h' run := by
    obtain ⟨h₁, e, ready⟩ | ⟨halt, h₁, e, -⟩ := blockUntil_cases (fun _ => false) h
    · cases ready
    · rw [blockForever, e] at run
      cases run
  halted _ _ _ _ := .inl trivial

theorem yields_awaitEnding (ending : Ending) :
    Yields child (ending = .held) (awaitEnding child ending) ending.result := by
  cases ending with
  | broken cause => exact (yields_pure _).congr (by simp)
  | closed => exact (yields_map yields_awaitEnd _).congr (by simp)
  | endless => exact (yields_map yields_awaitEnd _).congr (by simp)
  | held => exact (yields_map yields_blockForever _).congr (by simp)

end yields

section reading
variable (q : Query) (child : Nat) (output : Output)

theorem yields_drainOutput :
    Yields child (output.ending = .held) (drainOutput child output) output.ending.result :=
  yields_after (fun _ => ⟨_, _, rfl⟩) fun _ => yields_after (fun _ => ⟨_, _, rfl⟩) fun _ =>
    yields_awaitEnding output.ending

/-- What is taken for complete has no rest that anybody could leave. -/
theorem isUnfinished_complete (result : Except Fault Unit) (bytes : List UInt8) :
    isUnfinished (result.map fun _ => .complete bytes) = false ↔ result = .ok () := by
  cases result with
  | error cause => simp [Except.map, isUnfinished]
  | ok _ => simp [Except.map, isUnfinished, Capture.isComplete]

theorem unending_iff_held {bytes : List UInt8}
    (complete : captured q output = output.ending.result.map fun _ => .complete bytes) :
    Unending q output ↔ output.ending = .held := by
  unfold Unending
  rw [complete, isUnfinished_complete]
  refine and_iff_left_of_imp fun held => ?_
  rw [held]
  rfl

theorem yields_readOutput_overflow {head : List UInt8}
    (read : (readBounded (output.visible q.limit) q.limit).1 = .overflow head) :
    Yields child False (readOutput child output q.limit) (.ok (.overflow head)) := by
  refine yields_after (fun _ => ⟨_, _, rfl⟩) fun _ =>
    yields_after (fun _ => ⟨_, _, rfl⟩) fun _ => ?_
  simp only [read]
  exact yields_pure _

theorem yields_readOutput_complete {bytes : List UInt8}
    (read : (readBounded (output.visible q.limit) q.limit).1 = .complete bytes) :
    Yields child (output.ending = .held) (readOutput child output q.limit)
      (output.ending.result.map fun _ => .complete bytes) := by
  refine yields_after (fun _ => ⟨_, _, rfl⟩) fun _ =>
    yields_after (fun _ => ⟨_, _, rfl⟩) fun _ => ?_
  simp only [read]
  exact yields_map (yields_awaitEnding output.ending) _

theorem yields_readAnswer :
    Yields child (Unending q output) (readAnswer q child output) (captured q output) := by
  unfold readAnswer
  cases read : (readBounded (output.visible q.limit) q.limit).1 with
  | complete bytes =>
    have complete : captured q output = output.ending.result.map fun _ => .complete bytes := by
      simp only [captured, read]
    rw [complete]
    refine (yields_then (yields_readOutput_complete q child output read) ?_).congr
      (unending_iff_held q output complete).symm
    cases output.ending.result <;> exact yields_pure _
  | overflow head =>
    cases excess : q.excess with
    | refuse =>
      have overflow : captured q output = .ok (.overflow head) := by
        simp only [captured, read, excess]
      have ends : ¬ Unending q output := by simp [Unending, overflow, isUnfinished,
        Capture.isComplete]
      rw [overflow]
      refine (yields_then (yields_readOutput_overflow q child output read) ?_).congr
        (by simp [ends])
      exact yields_pure _
    | cut =>
      have complete : captured q output = output.ending.result.map fun _ => .complete head := by
        simp only [captured, read, excess]
      rw [complete]
      refine ((yields_bind (yields_readOutput_overflow q child output read) ?_).congr
        (iff_of_eq (false_or _))).congr (unending_iff_held q output complete).symm
      exact yields_after (fun _ => ⟨_, _, rfl⟩) fun _ =>
        yields_map (yields_drainOutput child output) _

theorem yields_readAll :
    Yields child (Unending q output) (readAll q child output) (captured q output) := by
  refine yields_then (yields_readAnswer q child output) ?_
  split
  · refine yields_after (fun _ => ⟨_, _, rfl⟩) fun fault => ?_
    cases fault with
    | none => exact yields_pure _
    | some cause => exact yields_after (fun _ => ⟨_, _, rfl⟩) fun _ => yields_pure _
  · exact yields_pure _

/-- Whoever reads an output kills the child exactly if nobody will read the rest. -/
theorem killedIf_readAll {token : String} {h h' : Host} {x : Except Fault Capture}
    (run : readAll q child output h = .ok x h') :
    KilledIf (isUnfinished (captured q output) = true) token child h h' := by
  have receptive := receptive_killedIf token child
  unfold readAll at run
  obtain ⟨result, h₁, run₁, run⟩ := Act.ok_of_bind run
  have read := killedIf_of_run ((within_readAnswer receptive q output).ok run₁)
  obtain ⟨rfl, -⟩ := (yields_readAnswer q child output).returned h result h₁ run₁
  cases unread : isUnfinished (captured q output) with
  | false =>
    simp only [unread, Bool.false_eq_true, if_false, Act.pure_apply] at run
    cases run
    exact read.congr (by simp)
  | true =>
    simp only [unread, if_true, kill, Act.bind_apply, Act.modifyGet_apply] at run
    have killed := (read.trans (killedIf_kill h₁)).congr (q := true = true) (by simp)
    cases fault : (h₁.killChild child).1 with
    | none =>
      simp only [fault, Act.pure_apply] at run
      cases run
      exact killed
    | some cause =>
      simp only [fault, Act.bind_apply, Act.note_apply, Act.pure_apply] at run
      cases run
      exact killed.later (receptive.write _ _ (by constructor <;> rfl))

end reading

end DebugBridge
