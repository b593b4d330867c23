import DebugBridge.Host.Time
import Mathlib.Logic.Relation

/-!
# Runs of activities

An activity is run on a host; it returns, or it stops for good, and in both cases it leaves a host
behind. What a run may do is said by a relation between the hosts before and after a single step:
an activity stays within the relation when every run of it is a finite sequence of such steps.
-/

namespace DebugBridge.Act

variable {α β : Type}

theorem bind_apply (m : Act α) (f : α → Act β) (h : Host) :
    (m >>= f) h = match m h with
      | .ok a h => f a h
      | .error e h => .error e h := by
  simp only [bind, EStateM.bind]
  cases m h <;> rfl

theorem pure_apply (a : α) (h : Host) : (pure a : Act α) h = .ok a h := rfl

theorem get_apply (h : Host) : (get : Act Host) h = .ok h h := rfl

theorem modify_apply (f : Host → Host) (h : Host) : (modify f : Act Unit) h = .ok () (f h) := rfl

theorem modifyGet_apply (f : Host → α × Host) (h : Host) :
    (modifyGet f : Act α) h = .ok (f h).1 (f h).2 := rfl

theorem isInterrupted_apply (token : String) (h : Host) :
    isInterrupted token h = .ok (h.interrupted token) h := rfl

theorem note_apply (severity : Severity) (text : String) (h : Host) :
    note severity text h = .ok () (h.note severity text) := rfl

/-- The host that a run leaves behind, whether it returned or stopped for good. -/
def after (m : Act α) (h : Host) : Host :=
  match m h with
  | .ok _ h => h
  | .error _ h => h

theorem after_ok {m : Act α} {h h' : Host} {a : α} (e : m h = .ok a h') : after m h = h' := by
  simp [after, e]

theorem after_error {m : Act α} {h h' : Host} {halt : Host.Halt} (e : m h = .error halt h') :
    after m h = h' := by
  simp [after, e]

theorem after_bind_ok {m : Act α} {f : α → Act β} {h h' : Host} {a : α} (e : m h = .ok a h') :
    after (m >>= f) h = after (f a) h' := by
  simp [after, bind_apply, e]

theorem after_bind_error {m : Act α} {f : α → Act β} {h h' : Host} {halt : Host.Halt}
    (e : m h = .error halt h') : after (m >>= f) h = h' := by
  simp [after, bind_apply, e]

/-- A run that returns went through what comes first, and returned what comes after it. -/
theorem ok_of_bind {m : Act α} {f : α → Act β} {h h' : Host} {b : β}
    (ran : (m >>= f) h = .ok b h') : ∃ a h₁, m h = .ok a h₁ ∧ f a h₁ = .ok b h' := by
  rw [bind_apply] at ran
  cases first : m h with
  | ok a h₁ =>
    rw [first] at ran
    exact ⟨a, h₁, rfl, ran⟩
  | error halt h₁ =>
    rw [first] at ran
    cases ran

/-- A run that stops for good does so in what comes first, or in what comes after it. -/
theorem error_of_bind {m : Act α} {f : α → Act β} {h h' : Host} {halt : Host.Halt}
    (ran : (m >>= f) h = .error halt h') :
    m h = .error halt h' ∨ ∃ a h₁, m h = .ok a h₁ ∧ f a h₁ = .error halt h' := by
  rw [bind_apply] at ran
  cases first : m h with
  | ok a h₁ =>
    rw [first] at ran
    exact .inr ⟨a, h₁, rfl, ran⟩
  | error halt h₁ =>
    rw [first] at ran
    cases ran
    exact .inl rfl

def returned? (m : Act α) (h : Host) : Option α :=
  match m h with
  | .ok a _ => some a
  | .error _ _ => none

theorem of_returned? {m : Act α} {h : Host} {a : α} (e : returned? m h = some a) :
    m h = .ok a (after m h) := by
  unfold returned? after at *
  cases run : m h <;> simp_all

/-- Every run is a finite sequence of steps that the relation allows. -/
def Within (R : Host → Host → Prop) (m : Act α) : Prop :=
  ∀ h, Relation.ReflTransGen R h (after m h)

section
variable {R : Host → Host → Prop} {m : Act α} {f : α → Act β} {h h' : Host}

theorem within_pure (a : α) : Within R (pure a : Act α) := fun _ => .refl

theorem within_get : Within R (get : Act Host) := fun _ => .refl

theorem within_isInterrupted (token : String) : Within R (isInterrupted token) := fun _ => .refl

theorem within_modify {g : Host → Host} (step : ∀ h, R h (g h)) : Within R (modify g : Act Unit) :=
  fun h => .single (step h)

theorem within_modifyGet {g : Host → α × Host} (step : ∀ h, R h (g h).2) :
    Within R (modifyGet g : Act α) :=
  fun h => .single (step h)

/-- What comes after an activity starts on the host that the activity leaves behind. -/
theorem within_rest (hf : ∀ a, Within R (f a)) (h : Host) :
    Relation.ReflTransGen R (after m h) (after (m >>= f) h) := by
  cases e : m h with
  | ok a h₁ =>
    rw [after_bind_ok e, after_ok e]
    exact hf a h₁
  | error halt h₁ => rw [after_bind_error e, after_error e]

theorem within_bind (hm : Within R m) (hf : ∀ a, Within R (f a)) : Within R (m >>= f) :=
  fun h => (hm h).trans (within_rest hf h)

theorem within_map {g : α → β} (hm : Within R m) : Within R (g <$> m) :=
  within_bind hm fun a => within_pure (g a)

theorem Within.mono {S : Host → Host → Prop} (hm : Within R m) (le : ∀ h h', R h h' → S h h') :
    Within S m :=
  fun h => Relation.ReflTransGen.mono le _ _ (hm h)

theorem Within.ok {a : α} (hm : Within R m) (e : m h = .ok a h') : Relation.ReflTransGen R h h' :=
  after_ok e ▸ hm h

theorem Within.error {halt : Host.Halt} (hm : Within R m) (e : m h = .error halt h') :
    Relation.ReflTransGen R h h' :=
  after_error e ▸ hm h

end
end DebugBridge.Act
