import DebugBridge.Proofs.Host.Custody

/-!
# Who kills a child

The only thing that ever changes a child is a kill. It comes from the activity that looks after the
child or from an interrupt of the token that is armed with it, and that token is armed only while it
is not interrupted.
-/

namespace DebugBridge
namespace Host

open Cancel Relation

/-- Nothing happened to the child but kills. -/
def OnlyKilled (child : Nat) (h h' : Host) : Prop :=
  h'.children child = h.children child ∨ h'.children child = (h.children child).kill

/-- The child has ended, or the token is armed with it and was not interrupted. -/
def Watched (token : String) (child : Nat) (h : Host) : Prop :=
  (h.children child).hasEnded = true ∨
    (h.tokens token).armed = some (.process child) ∧ h.interrupted token = false

def Watches (token : String) (child : Nat) (h h' : Host) : Prop :=
  Watched token child h → Watched token child h'

def Apart (token : String) (child : Nat) (h : Host) : Prop :=
  ∀ name, name ≠ token → (h.tokens name).armed ≠ some (.process child)

/-- Unless the token is interrupted, the child is killed exactly if the condition holds. -/
structure KilledIf (condition : Prop) (token : String) (child : Nat) (h h' : Host) : Prop where
  flag : h.interrupted token = true → h'.interrupted token = true
  apart : Apart token child h → Apart token child h'
  kills : Apart token child h → h'.interrupted token = false →
    (.kill ∈ h'.callsOn child ↔ .kill ∈ h.callsOn child ∨ condition)

section
variable {token : String} {child : Nat} {h h' h'' : Host}

theorem OnlyKilled.trans (a : OnlyKilled child h h') (b : OnlyKilled child h' h'') :
    OnlyKilled child h h'' := by
  obtain e | e := a <;> obtain e' | e' := b <;> rw [e] at e'
  · exact .inl e'
  · exact .inr e'
  · exact .inr e'
  · rw [Child.kill_kill] at e'
    exact .inr e'

theorem killChild_onlyKilled (child other : Nat) (h : Host) :
    OnlyKilled child h (h.killChild other).2 := by
  by_cases eq : child = other
  · subst eq
    exact .inr (assign_same _ _ _)
  · exact .inl (assign_other _ eq)

theorem interrupt_onlyKilled (name : String) (child : Nat) (h : Host) :
    OnlyKilled child h (h.interrupt name) := by
  by_cases armed : (h.tokens name).armed = some (.process child)
  · exact .inr (interrupt_armed armed).1
  · exact .inl (interrupt_other armed).1

theorem tolerant_onlyKilled (child : Nat) : Tolerant (OnlyKilled child) :=
  ⟨fun _ _ world => .inl (by rw [world.children]), fun name h => interrupt_onlyKilled name child h⟩

theorem Tending.onlyKilled {other : Nat} (step : Tending token other h h') (child : Nat) :
    OnlyKilled child h h' := by
  cases step with
  | write world => exact (tolerant_onlyKilled child).write _ _ world
  | interrupt name => exact interrupt_onlyKilled name child h
  | arm => exact .inl rfl
  | disarm => exact .inl rfl
  | call c => exact .inl rfl
  | kill => exact killChild_onlyKilled child other h

theorem onlyKilled_of_run (run : ReflTransGen (OnlyKilled child) h h') : OnlyKilled child h h' := by
  induction run with
  | refl => exact .inl rfl
  | tail _ step ih => exact ih.trans step

theorem onlyKilled_of_tended {other : Nat} (run : ReflTransGen (Tending token other) h h')
    (child : Nat) : OnlyKilled child h h' :=
  onlyKilled_of_run (ReflTransGen.mono (fun _ _ step => step.onlyKilled child) _ _ run)

/-- A child comes to the outcome it was started for, or to none if it was killed before. -/
theorem OnlyKilled.outcome {o : Outcome} (killed : OnlyKilled child h h')
    (outcome : (h'.children child).outcome? = some o) :
    o = (h.children child).outcome?.getD .unknown := by
  obtain e | e := killed <;> rw [e] at outcome
  · rw [outcome]
    rfl
  · exact (Option.some.inj outcome).symm

theorem OnlyKilled.ended (killed : OnlyKilled child h h')
    (ended : (h.children child).hasEnded = true) : (h'.children child).hasEnded = true := by
  obtain e | e := killed <;> rw [e]
  · exact ended
  · exact Child.hasEnded_kill _

/-- Once a child was killed it counts as killed for ever. -/
theorem OnlyKilled.killed (only : OnlyKilled child h h')
    (killed : (h.children child).killed = true) : (h'.children child).killed = true := by
  obtain e | e := only <;> rw [e]
  · exact killed
  · rfl

theorem watches_of_run (run : ReflTransGen (Watches token child) h h') :
    Watches token child h h' := by
  induction run with
  | refl => exact id
  | tail _ step ih => exact fun watched => step (ih watched)

theorem interrupt_watches (name : String) (h : Host) :
    Watches token child h (h.interrupt name) := by
  rintro (ended | ⟨armed, idle⟩)
  · obtain e | e := interrupt_onlyKilled name child h
    · exact .inl (e ▸ ended)
    · exact .inl (e ▸ Child.hasEnded_kill _)
  · by_cases eq : name = token
    · subst eq
      exact .inl ((interrupt_armed armed).1 ▸ Child.hasEnded_kill _)
    · refine .inr ⟨?_, ?_⟩
      · rwa [tokens_interrupt, assign_other _ (Ne.symm eq)]
      · rwa [interrupted, tokens_interrupt, assign_other _ (Ne.symm eq)]

theorem attentive_watches (token : String) (child : Nat) :
    Attentive child (Watches token child) where
  write h h' world := by
    unfold Watches Watched interrupted
    rw [world.children, world.tokens]
    exact id
  interrupt := interrupt_watches
  read _ := id
  wait _ := id
  kill h _ := .inl (hasEnded_killChild child h)

/-- Arming a token that was not interrupted makes it watch the child. -/
theorem watched_armed (idle : h.interrupted token = false) :
    Watched token child (h.updateToken token fun t => (t.arm (.process child)).2) := by
  have idle : (h.tokens token).interrupted = false := idle
  exact .inr (by simp [interrupted, updateToken, idle])

theorem KilledIf.trans {p q : Prop} (a : KilledIf p token child h h')
    (b : KilledIf q token child h' h'') : KilledIf (p ∨ q) token child h h'' where
  flag raised := b.flag (a.flag raised)
  apart alone := b.apart (a.apart alone)
  kills alone idle := by
    have before : h'.interrupted token = false :=
      Bool.eq_false_iff.mpr fun raised => by simp [b.flag raised] at idle
    rw [b.kills (a.apart alone) idle, a.kills alone before, or_assoc]

theorem KilledIf.congr {p q : Prop} (a : KilledIf p token child h h') (iff : p ↔ q) :
    KilledIf q token child h h' :=
  ⟨a.flag, a.apart, fun alone idle => (a.kills alone idle).trans (or_congr_right iff)⟩

theorem KilledIf.later {p : Prop} (a : KilledIf p token child h h')
    (b : KilledIf False token child h' h'') : KilledIf p token child h h'' :=
  (a.trans b).congr (or_iff_left id)

/-- What neither kills nor arms anything else kills under no condition. -/
theorem killedIf_never (flag : h.interrupted token = true → h'.interrupted token = true)
    (apart : Apart token child h → Apart token child h')
    (calls : Apart token child h → h'.interrupted token = false →
      (.kill ∈ h'.callsOn child ↔ .kill ∈ h.callsOn child)) : KilledIf False token child h h' :=
  ⟨flag, apart, fun alone idle => (calls alone idle).trans (or_iff_left id).symm⟩

theorem killedIf_record {c : Call} (other : c ≠ .kill) (h : Host) :
    KilledIf False token child h (h.record child c) :=
  killedIf_never id id fun _ _ => by simp [Ne.symm other]

theorem killedIf_kill (h : Host) : KilledIf True token child h (h.killChild child).2 :=
  ⟨id, id, fun _ _ => by simp [callsOn, occasionsOn_killChild]⟩

theorem killedIf_updateToken {f : Token → Token}
    (flag : (f (h.tokens token)).interrupted = (h.tokens token).interrupted) :
    KilledIf False token child h (h.updateToken token f) := by
  refine killedIf_never (fun raised => ?_) (fun alone name ne => ?_) fun _ _ => Iff.rfl
  · simpa [interrupted, updateToken, flag] using raised
  · simpa [updateToken, ne] using alone name ne

theorem interrupt_killedIf (name : String) (h : Host) :
    KilledIf False token child h (h.interrupt name) := by
  refine killedIf_never ((quiet_interrupt name h).flags token) (fun alone other ne => ?_)
    fun alone idle => ?_
  · rw [tokens_interrupt]
    by_cases eq : other = name
    · simp [eq]
    · simpa [eq] using alone other ne
  · have ne : name ≠ token := fun eq => by simp [← eq, interrupted_interrupt] at idle
    rw [callsOn, (interrupt_other (alone name ne)).2, callsOn]

theorem receptive_killedIf (token : String) (child : Nat) :
    Receptive child (KilledIf False token child) where
  write h h' world := by
    refine killedIf_never (world.quiet.flags token) (fun alone name ne => ?_) fun _ _ => ?_
    · rw [world.tokens]
      exact alone name ne
    · rw [callsOn, occasionsOn, world.occasions]
      rfl
  interrupt := interrupt_killedIf
  read := killedIf_record (by simp)

theorem killedIf_of_run (run : ReflTransGen (KilledIf False token child) h h') :
    KilledIf False token child h h' := by
  induction run with
  | refl => exact killedIf_never id id fun _ _ => Iff.rfl
  | tail _ step ih => exact (ih.trans step).congr (or_self_iff)

end

section calls
variable {token : String} {child : Nat}

theorem within_wait_killedIf (reap : Bool) :
    Act.Within (KilledIf False token child) (wait child reap) := by
  refine within_waiting (receptive_killedIf token child).toTolerant (Act.within_modify ?_)
  cases reap <;> exact killedIf_record (by simp)

end calls

/-- An interrupt comes at once at this moment in the life of the command. -/
def struckAt (token : String) (command : Nat) (point : Point) (h : Host) : Bool :=
  h.strikes.any fun s => s.command = command && s.point = point && s.token = token && !s.later

theorem interrupted_interrupt_eq (name token : String) (h : Host) :
    (h.interrupt name).interrupted token = (h.interrupted token || decide (name = token)) := by
  rw [interrupted, tokens_interrupt]
  by_cases eq : name = token
  · simp [eq]
  · simp [eq, Ne.symm eq, interrupted]

theorem interrupted_suffer (s : Strike) (token : String) (h : Host) :
    (h.suffer s).interrupted token =
      (h.interrupted token || (decide (s.token = token) && !s.later)) := by
  unfold suffer
  split
  · next later => simp [later, interrupted]
  · next now => simp [now, interrupted_interrupt_eq]

/-- A moment raises the token if it was raised before or is struck at once. -/
theorem interrupted_strike (token : String) (command : Nat) (point : Point) (h : Host) :
    (h.strike command point).interrupted token =
      (h.interrupted token || h.struckAt token command point) := by
  have all (strikes : List Strike) (h : Host) :
      (strikes.foldl (fun h s => h.suffer s) h).interrupted token =
        (h.interrupted token || strikes.any fun s => decide (s.token = token) && !s.later) := by
    induction strikes generalizing h with
    | nil => simp
    | cons s rest ih => rw [List.foldl_cons, ih, interrupted_suffer, List.any_cons, Bool.or_assoc]
  unfold strike struckAt
  rw [all, List.any_filter]
  simp only [interrupted, Bool.and_assoc]

end Host
end DebugBridge
