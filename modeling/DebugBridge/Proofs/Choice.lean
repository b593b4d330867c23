import DebugBridge.Choice
import DebugBridge.Proofs.Device.Selection
import DebugBridge.Proofs.Host.Activity

/-!
# Which device is chosen

A selector resolves to a device exactly if no other device of the listing matches and the device is
ready. Choosing a device lists the devices and otherwise only reports.
-/

namespace DebugBridge

namespace Selection

theorem select_ok {devices : List Device} {selector : Selector} {d : Device} :
    (select devices selector).1 = .ok d ↔ ∃ only, devices.filter selector.accepts = [only] ∧
      only.isReady = true ∧ d = { only with selected := true } := by
  cases matching : devices.filter selector.accepts with
  | nil => simp [select_of_none matching]
  | cons only rest =>
    cases rest with
    | nil =>
      obtain ⟨before, after, rfl, accepted, others⟩ := filter_eq_singleton.mp matching
      have vetted : vet { only with selected := true } = .ok d ↔
          only.isReady = true ∧ d = { only with selected := true } := vet_ok
      rw [select_of_one accepted others]
      cases e : vet { only with selected := true } <;> simpa [e] using vetted
    | cons _ _ =>
      have several : 2 ≤ (devices.filter selector.accepts).length := by simp [matching]
      simp [select_of_several several]

end Selection

def chosenFrom (selector : Selector) : Except BridgeError (List Device) → Except ChoiceError Device
  | .error e => .error (.listing e)
  | .ok devices => (Selection.select devices selector).1.mapError .selection

/-- A device is chosen exactly if it is the only one of the listing that matches, and is ready. -/
theorem chosenFrom_ok {selector : Selector} {x : Except BridgeError (List Device)} {d : Device} :
    chosenFrom selector x = .ok d ↔
      ∃ devices only, x = .ok devices ∧ devices.filter selector.accepts = [only] ∧
        only.isReady = true ∧ d = { only with selected := true } := by
  cases x with
  | error e => simp [chosenFrom]
  | ok devices =>
    have selected : chosenFrom selector (.ok devices) = .ok d ↔
        (Selection.select devices selector).1 = .ok d := by
      change (Selection.select devices selector).1.mapError _ = _ ↔ _
      cases (Selection.select devices selector).1 <;> simp [Except.mapError]
    rw [selected, Selection.select_ok]
    simp

/-- A selection fails on a listing that succeeded. -/
theorem chosenFrom_failed {selector : Selector} {x : Except BridgeError (List Device)}
    {cause : SelectionError} (failed : chosenFrom selector x = .error (.selection cause)) :
    ∃ devices, x = .ok devices ∧ (Selection.select devices selector).1 = .error cause := by
  cases x with
  | error e => cases failed
  | ok devices =>
    refine ⟨devices, rfl, ?_⟩
    change (Selection.select devices selector).1.mapError _ = _ at failed
    cases selected : (Selection.select devices selector).1 with
    | ok d =>
      rw [selected] at failed
      cases failed
    | error cause' =>
      rw [selected] at failed
      cases failed
      rfl

/-- The listing fails with the error that the choice gives. -/
theorem chosenFrom_unlisted {selector : Selector} {x : Except BridgeError (List Device)}
    {cause : BridgeError} (failed : chosenFrom selector x = .error (.listing cause)) :
    x = .error cause := by
  cases x with
  | error e =>
    cases failed
    rfl
  | ok devices =>
    change (Selection.select devices selector).1.mapError _ = _ at failed
    cases selected : (Selection.select devices selector).1 <;> rw [selected] at failed <;>
      cases failed

/-- Choosing lists the devices and reports what it makes of them. -/
theorem choose_ends (b : Bridge) (token : String) (selector : Selector) (h : Host) :
    match b.devices token h with
    | .error halt h₁ => b.choose token selector h = .error halt h₁
    | .ok x h₁ => ∃ events,
      b.choose token selector h = .ok (chosenFrom selector x) { h₁ with events := events } := by
  unfold Bridge.choose
  rw [Act.bind_apply]
  cases b.devices token h with
  | error halt h₁ => rfl
  | ok x h₁ =>
    cases x with
    | error e =>
      dsimp only
      split <;> exact ⟨_, rfl⟩
    | ok devices =>
      simp only [chosenFrom]
      rw [Act.bind_apply, Act.note_apply]
      generalize Selection.select devices selector = selected
      obtain ⟨result, left⟩ := selected
      cases result with
      | ok d => exact ⟨_, rfl⟩
      | error cause =>
        simp only [Act.bind_apply, Act.note_apply]
        split <;> exact ⟨_, rfl⟩

end DebugBridge
