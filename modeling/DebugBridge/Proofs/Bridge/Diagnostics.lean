import DebugBridge.Proofs.Host.Diagnostics
import DebugBridge.Proofs.Bridge.Course

/-!
# What a successful query writes

A query reports an error only where it fails: its command could not be started, or its output is too
large. So one that succeeds has written nothing more severe than a warning.
-/

namespace DebugBridge

open Host

/-- Wherever the activity succeeds, it has written nothing but such events. -/
def Act.SucceedsWriting {ε α : Type} (P : Event → Prop) (m : Act (Except ε α)) : Prop :=
  ∀ h a h', m h = .ok (.ok a) h' → Wrote P h h'

section rules
variable {ε α β : Type} {P : Event → Prop} {m : Act β} {f : β → Act (Except ε α)}

theorem succeedsWriting_of_within {m : Act (Except ε α)} (within : Act.Within (Wrote P) m) :
    Act.SucceedsWriting P m :=
  fun _ _ _ ran => wrote_of_run (within.ok ran)

theorem succeedsWriting_bind (first : Act.Within (Wrote P) m)
    (rest : ∀ b, Act.SucceedsWriting P (f b)) : Act.SucceedsWriting P (m >>= f) := by
  intro h a h' ran
  obtain ⟨b, h₁, ran₁, ran⟩ := Act.ok_of_bind ran
  exact (wrote_of_run (first.ok ran₁)).trans (rest b h₁ a h' ran)

/-- What ends in an error may write anything. -/
theorem succeedsWriting_fail (m : Act β) (g : β → ε) :
    Act.SucceedsWriting P (m >>= fun b => pure (.error (g b) : Except ε α)) := by
  intro h a h' ran
  obtain ⟨b, h₁, -, ran⟩ := Act.ok_of_bind ran
  cases ran

/-- An error is passed on; what was written before it does not matter. -/
theorem succeedsWriting_then {m : Act (Except ε β)} {f : Except ε β → Act (Except ε α)}
    (first : Act.SucceedsWriting P m) (fails : ∀ e, f (.error e) = pure (.error e))
    (rest : ∀ b, Act.SucceedsWriting P (f (.ok b))) : Act.SucceedsWriting P (m >>= f) := by
  intro h a h' ran
  obtain ⟨x, h₁, ran₁, ran⟩ := Act.ok_of_bind ran
  cases x with
  | error cause =>
    rw [fails] at ran
    cases ran
  | ok b => exact (first h b h₁ ran₁).trans (rest b h₁ a h' ran)

end rules

/-- What is passed over in a listing is a detail. -/
theorem severity_of_mem_notes {output : String} {e : Event} (mem : e ∈ Listing.notes output) :
    e.severity = .debug := by
  obtain ⟨line, -, noted⟩ := List.mem_filterMap.mp mem
  cases line <;> simp [Listing.Line.note?] at noted <;> rw [← noted]

section queries
variable {P : Event → Prop} (details : ∀ text, P ⟨.debug, text⟩)
  (warnings : ∀ text, P ⟨.warn, text⟩) {b : Bridge} {token : String}
include details warnings

theorem supervise_succeedsWriting {α β : Type} {child : Nat} {meanwhile : Act β}
    {finish : Outcome → β → Act (Except BridgeError α)}
    (first : Act.Within (Wrote P) meanwhile)
    (last : ∀ outcome result, Act.SucceedsWriting P (finish outcome result)) :
    Act.SucceedsWriting P (Bridge.supervise token child meanwhile finish) := by
  have discreet := discreet_wrote details warnings token
  refine succeedsWriting_bind (discreet.arm _) fun armed => ?_
  cases armed with
  | false => exact succeedsWriting_fail (abandon child) fun _ => BridgeError.interrupted
  | true =>
    refine succeedsWriting_bind first fun result =>
      succeedsWriting_bind discreet.conclude fun outcome => ?_
    have rules := discreet.sequential
    refine succeedsWriting_bind (rules.map _ (rules.isInterrupted token)) fun cancelled => ?_
    cases cancelled with
    | true => exact succeedsWriting_of_within (rules.pure _)
    | false => exact last outcome result

theorem ask_succeedsWriting (q : Query) : Act.SucceedsWriting P (b.ask token q) := by
  have discreet := discreet_wrote details warnings token
  have rules := discreet.sequential
  refine succeedsWriting_bind (rules.isInterrupted token) fun interrupted => ?_
  cases interrupted with
  | true => exact succeedsWriting_of_within (rules.pure _)
  | false =>
    refine succeedsWriting_bind (rules.detail _) fun _ =>
      succeedsWriting_bind (discreet.spawn _ _) fun started => ?_
    cases started with
    | error cause => exact succeedsWriting_fail _ id
    | ok started =>
      refine supervise_succeedsWriting details warnings
        (discreet.readAll q started.2) fun outcome result => ?_
      cases result with
      | error cause => exact succeedsWriting_of_within (rules.pure _)
      | ok capture =>
        cases capture with
        | complete bytes => exact succeedsWriting_of_within (rules.map _ (rules.judge _ _))
        | overflow head =>
          exact succeedsWriting_fail (note .error _) fun _ =>
            BridgeError.captureOverflow q.name q.limit

theorem devices_succeedsWriting : Act.SucceedsWriting P (b.devices token) := by
  refine succeedsWriting_then (ask_succeedsWriting details warnings .devices) (fun _ => rfl)
    fun output => succeedsWriting_of_within ?_
  refine Act.within_bind (Act.within_modify fun h => ⟨_, rfl, fun e mem => ?_⟩) fun _ =>
    Act.within_pure _
  obtain ⟨severity, text⟩ := e
  obtain rfl : severity = .debug := severity_of_mem_notes (List.mem_reverse.mp mem)
  exact details text

end queries
end DebugBridge
