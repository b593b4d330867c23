import DebugBridge.Process.Handle
import DebugBridge.Proofs.Host.Calls

/-!
# Children that threads share

One thread waits for a child while another may kill it. A wait looks at the child again and again
until it is told an outcome, a kill takes one step, and between any two steps other threads may take
theirs; a real child ends whenever it likes. In whatever order the steps come, the outcome is
decided once: every wait returns it, no kill changes it, and after a wait that reaps the child
nobody is signalled any more.
-/

namespace DebugBridge.Shared

variable {σ ω : Type}

inductive Demand where
  | wait (reap : Bool)
  | kill
  deriving DecidableEq, Repr

inductive Answer where
  | outcome (o : Outcome)
  /-- The fault that a kill reports, if it reports one. -/
  | killed (fault? : Option Fault)
  deriving DecidableEq, Repr

/-- A kind of children with states in `σ`, and what one step does to a child. The system has its
part in some steps, which is one of `ω`. -/
structure Kind (σ ω : Type) where
  /-- A child that was just started. -/
  fresh : σ
  /-- The outcome to which the child comes by itself, if it comes to one. -/
  own? : Option Outcome
  /-- The outcome of a child that has ended. -/
  decided? : σ → Option Outcome
  /-- How many signals were sent to a process for the child. -/
  signals : σ → Nat
  /-- The child ends by itself. -/
  finish : σ → σ
  /-- One look of a wait, and the outcome that the wait is told. -/
  look : (reap : Bool) → ω → σ → Option Outcome × σ
  kill : ω → σ → Option Fault × σ
  /-- What the system may answer. -/
  Truthful : ω → σ → Prop
  /-- What a system answers that knows everything at once. -/
  prompt : σ → ω

/-- Children of a script, whose outcome is there from the start or never comes by itself. -/
def scripted (pid : Nat) (own? : Option Outcome) : Kind Child Unit where
  fresh := { pid, outcome? := own? }
  own? := own?
  decided? := Child.outcome?
  signals := fun _ => 0
  finish := id
  look := fun _ _ c => (c.outcome?, c)
  kill := fun _ c => (c.killFault?, c.kill)
  Truthful := fun _ _ => True
  prompt := fun _ => ()

/-- On the host, a wait returns what a look at the child tells, and a kill kills the child. -/
theorem host_scripted (pid : Nat) (own? : Option Outcome) (id : Nat) (reap : Bool) (h : Host) :
    (∀ o h', wait id reap h = .ok o h' →
      (scripted pid own?).look reap () (h'.children id) = (some o, h'.children id)) ∧
    (h.killChild id).1 = ((scripted pid own?).kill () (h.children id)).1 ∧
    (h.killChild id).2.children id = ((scripted pid own?).kill () (h.children id)).2 := by
  refine ⟨fun o h' waited => ?_, rfl, by simp [Host.killChild, Host.updateChild, scripted]⟩
  obtain ⟨o', h'', e, outcome⟩ | ⟨halt, h'', e, -⟩ := wait_cases id reap h
  · cases e.symm.trans waited
    simp [scripted, outcome]
  · cases e.symm.trans waited

structure Word where
  news : News := .running
  /-- Why it would not send a signal. -/
  refusal? : Option Fault := none
  deriving DecidableEq, Repr

/-- The system can tell the status of every child that has ended, and lets a child that runs be
killed. Its news may be late, as of a child that was killed and is not gone yet. -/
structure Word.Truthful (w : Word) (h : Handle) : Prop where
  able : ∀ cause, w.news ≠ .failed cause
  right : ∀ s, w.news = .ended s → h.status? = some s
  kills : h.status? = none → w.refusal? = none

def real (pid : Nat) (own : Status) : Kind Handle Word where
  fresh := { pid }
  own? := some own.outcome
  decided? := Handle.outcome?
  signals := Handle.signals
  finish := Handle.finish own
  look := fun reap w => Handle.hear reap w.news
  kill := fun w => Handle.kill w.refusal?
  Truthful := Word.Truthful
  prompt := fun h => { news := h.news }

/-! ### Steps and runs -/

structure Scene (σ : Type) where
  child : σ
  calls : Nat → Option Demand := fun _ => none

/-- A step of the child or of a thread. -/
inductive Move (ω : Type) where
  | finish
  /-- A thread that is in no call begins one. -/
  | enter (thread : Nat) (demand : Demand)
  /-- A thread goes on with its call: a wait that was told nothing may look again at any time,
  whether somebody woke it or not. -/
  | proceed (thread : Nat) (word : ω)
  deriving DecidableEq, Repr

structure Return where
  thread : Nat
  demand : Demand
  answer : Answer
  deriving DecidableEq, Repr

/-- One step of a call: what the call gives if it returns, and the child. -/
def Kind.attempt (K : Kind σ ω) : Demand → ω → σ → Option Answer × σ
  | .wait reap, w, s => ((K.look reap w s).1.map .outcome, (K.look reap w s).2)
  | .kill, w, s => (some (.killed (K.kill w s).1), (K.kill w s).2)

namespace Move

/-- The scene after a step. A call that does not return goes on. -/
def apply (K : Kind σ ω) : Move ω → Scene σ → Scene σ
  | .finish, s => { s with child := K.finish s.child }
  | .enter t d, s => if s.calls t = none then { s with calls := assign s.calls t (some d) } else s
  | .proceed t w, s =>
    match s.calls t with
    | none => s
    | some d =>
      let (answer?, child) := K.attempt d w s.child
      { child, calls := if answer?.isSome then assign s.calls t none else s.calls }

def return? (K : Kind σ ω) (s : Scene σ) : Move ω → Option Return
  | .proceed t w => (s.calls t).bind fun d => (K.attempt d w s.child).1.map (⟨t, d, ·⟩)
  | _ => none

def Truthful (K : Kind σ ω) (s : Scene σ) : Move ω → Prop
  | .proceed _ w => K.Truthful w s.child
  | _ => True

end Move

section run
variable (K : Kind σ ω) (moves : List (Move ω))

def sceneAt (k : Nat) : Scene σ :=
  (moves.take k).foldl (fun s m => m.apply K s) { child := K.fresh }

def decidedAt (k : Nat) : Option Outcome := K.decided? (sceneAt K moves k).child

def returnAt (k : Nat) : Option Return := moves[k]?.bind (·.return? K (sceneAt K moves k))

def Waited (k : Nat) (reap : Bool) (o : Outcome) : Prop :=
  ∃ t, returnAt K moves k = some ⟨t, .wait reap, .outcome o⟩

def Killed (k : Nat) (fault? : Option Fault) : Prop :=
  ∃ t, returnAt K moves k = some ⟨t, .kill, .killed fault?⟩

/-- Whatever the system answers in a run is true. -/
def Truthful : Prop :=
  ∀ (k : Nat) (m : Move ω), moves[k]? = some m → m.Truthful K (sceneAt K moves k)

/-- A run in which the outcome of the child is decided once. -/
structure Settled : Prop where
  /-- A wait returns the outcome that is decided. -/
  told : ∀ k reap o, Waited K moves k reap o → decidedAt K moves k = some o
  stays : ∀ k n o, k ≤ n → decidedAt K moves k = some o → decidedAt K moves n = some o
  agreed : ∀ j k reap reap' o o', Waited K moves j reap o → Waited K moves k reap' o' → o = o'
  /-- A kill decides what is not decided yet. -/
  killed : ∀ k fault?, Killed K moves k fault? →
    decidedAt K moves (k + 1) = some ((decidedAt K moves k).getD .unknown)
  /-- Without a kill the outcome is the child's own. -/
  own : ∀ k reap o, Waited K moves k reap o → (∀ j < k, ∀ fault?, ¬ Killed K moves j fault?) →
    K.own? = some o
  /-- Once the outcome is decided, a wait returns as soon as the system tells it. -/
  prompt : ∀ k t reap o, decidedAt K moves k = some o →
    (sceneAt K moves k).calls t = some (.wait reap) →
    Move.return? K (sceneAt K moves k) (.proceed t (K.prompt (sceneAt K moves k).child)) =
      some ⟨t, .wait reap, .outcome o⟩
  /-- After a wait that reaps, every wait returns with its next step. -/
  recorded : ∀ j k t reap o w, Waited K moves j true o → j < k →
    (sceneAt K moves k).calls t = some (.wait reap) → K.Truthful w (sceneAt K moves k).child →
    Move.return? K (sceneAt K moves k) (.proceed t w) = some ⟨t, .wait reap, .outcome o⟩
  /-- After a wait that reaps, every kill succeeds. -/
  spared : ∀ j k t o w, Waited K moves j true o → j < k →
    (sceneAt K moves k).calls t = some .kill → K.Truthful w (sceneAt K moves k).child →
    Move.return? K (sceneAt K moves k) (.proceed t w) = some ⟨t, .kill, .killed none⟩
  /-- After a wait that reaps, no process is signalled. -/
  unsignalled : ∀ j k o, Waited K moves j true o → j < k →
    K.signals (sceneAt K moves k).child = K.signals (sceneAt K moves (j + 1)).child

end run

/-! ### What a kind of children has to keep -/

section laws
variable (K : Kind σ ω) (Sound Released : σ → Prop)

/-- What every step keeps of a child. -/
structure Onward (s s' : σ) : Prop where
  sound : Sound s'
  decided : ∀ o, K.decided? s = some o → K.decided? s' = some o
  released : Released s → Released s'
  signals : Released s → K.signals s' = K.signals s

inductive Looked (reap : Bool) (s : σ) : Option Outcome × σ → Prop where
  | told {o : Outcome} {s' : σ} : K.decided? s = some o → Onward K Sound Released s s' →
      (reap = true → Released s') → Looked reap s (some o, s')
  | untold : ¬ Released s → Looked reap s (none, s)

structure Struck (s : σ) (r : Option Fault × σ) : Prop where
  onward : Onward K Sound Released s r.2
  decides : K.decided? r.2 = some ((K.decided? s).getD .unknown)
  works : Released s → r.1 = none

/-- The laws of a kind of children: `Sound` holds of every child, and `Released` from a wait on that
reaps it. -/
structure Lawful : Prop where
  sound : Sound K.fresh
  fresh_own : ∀ o, K.decided? K.fresh = some o → K.own? = some o
  finish : ∀ s, Sound s → Onward K Sound Released s (K.finish s)
  finish_own : ∀ s o, K.decided? (K.finish s) = some o → K.decided? s = some o ∨ K.own? = some o
  look : ∀ reap w s, Sound s → K.Truthful w s → Looked K Sound Released reap s (K.look reap w s)
  prompt : ∀ reap s o, Sound s → K.decided? s = some o → (K.look reap (K.prompt s) s).1 = some o
  kill : ∀ w s, Sound s → K.Truthful w s → Struck K Sound Released s (K.kill w s)

end laws

section look
variable {K : Kind σ ω} {Sound Released : σ → Prop}

theorem Onward.refl {s : σ} (sound : Sound s) : Onward K Sound Released s s :=
  ⟨sound, fun _ => id, id, fun _ => rfl⟩

theorem Onward.trans {s s' s'' : σ} (first : Onward K Sound Released s s')
    (next : Onward K Sound Released s' s'') : Onward K Sound Released s s'' :=
  ⟨next.sound, fun o decided => next.decided o (first.decided o decided),
    fun released => next.released (first.released released),
    fun released => (next.signals (first.released released)).trans (first.signals released)⟩

variable {reap : Bool} {s : σ} {r : Option Outcome × σ} {o : Outcome}
  (looked : Looked K Sound Released reap s r)
include looked

theorem Looked.onward (sound : Sound s) : Onward K Sound Released s r.2 := by
  cases looked with
  | told _ onward _ => exact onward
  | untold _ => exact .refl sound

theorem Looked.decided_eq : K.decided? r.2 = K.decided? s := by
  cases looked with
  | told decided onward _ => rw [decided, onward.decided _ decided]
  | untold _ => rfl

theorem Looked.of_told (told : r.1 = some o) :
    K.decided? s = some o ∧ (reap = true → Released r.2) := by
  cases looked with
  | told decided _ released =>
    cases told
    exact ⟨decided, released⟩
  | untold _ => cases told

theorem Looked.of_released (released : Released s) (decided : K.decided? s = some o) :
    r.1 = some o := by
  cases looked with
  | told decided' _ _ => exact decided'.symm.trans decided
  | untold unreleased => exact absurd released unreleased

end look

section step
variable {K : Kind σ ω} {Sound Released : σ → Prop} {m : Move ω} {s : Scene σ}

theorem child_proceed (t : Nat) (w : ω) (s : Scene σ) : ((Move.proceed t w).apply K s).child =
    ((s.calls t).map fun d => (K.attempt d w s.child).2).getD s.child := by
  simp only [Move.apply]
  cases s.calls t <;> rfl

theorem child_enter (t : Nat) (d : Demand) (s : Scene σ) :
    ((Move.enter t d).apply K s).child = s.child := by
  simp only [Move.apply]
  split <;> rfl

variable (laws : Lawful K Sound Released) (sound : Sound s.child) (truthful : m.Truthful K s)
include laws sound truthful

theorem onward_apply : Onward K Sound Released s.child (m.apply K s).child := by
  cases m with
  | finish => exact laws.finish s.child sound
  | enter t d =>
    rw [child_enter]
    exact .refl sound
  | proceed t w =>
    rw [child_proceed]
    cases s.calls t with
    | none => exact .refl sound
    | some d =>
      cases d with
      | wait reap => exact (laws.look reap w s.child sound truthful).onward sound
      | kill => exact (laws.kill w s.child sound truthful).onward

/-- A step that is no kill decides nothing but the child's own outcome. -/
theorem own_apply {o : Outcome}
    (unkilled : ∀ t fault?, m.return? K s ≠ some ⟨t, .kill, .killed fault?⟩)
    (decided : K.decided? (m.apply K s).child = some o) :
    K.decided? s.child = some o ∨ K.own? = some o := by
  cases m with
  | finish => exact laws.finish_own s.child o decided
  | enter t d =>
    rw [child_enter] at decided
    exact .inl decided
  | proceed t w =>
    rw [child_proceed] at decided
    cases called : s.calls t with
    | none =>
      rw [called] at decided
      exact .inl decided
    | some d =>
      rw [called] at decided
      cases d with
      | wait reap =>
        have looked := laws.look reap w s.child sound truthful
        exact .inl (looked.decided_eq.symm.trans decided)
      | kill =>
        have returned : (Move.proceed t w).return? K s =
            some ⟨t, .kill, .killed (K.kill w s.child).1⟩ := by
          simp [Move.return?, called, Kind.attempt]
        exact absurd returned (unkilled t _)

end step

section settled
variable {K : Kind σ ω} {Sound Released : σ → Prop} {moves : List (Move ω)}

theorem sceneAt_succ {k : Nat} {m : Move ω} (next : moves[k]? = some m) :
    sceneAt K moves (k + 1) = m.apply K (sceneAt K moves k) := by
  simp [sceneAt, List.take_add_one, next]

theorem sceneAt_succ_none {k : Nat} (last : moves[k]? = none) :
    sceneAt K moves (k + 1) = sceneAt K moves k := by
  simp [sceneAt, List.take_add_one, last]

/-- What a call returns, it returns in a step of its thread. -/
theorem returnAt_eq_some {k : Nat} {r : Return} (returned : returnAt K moves k = some r) :
    ∃ w, moves[k]? = some (.proceed r.thread w) ∧
      (K.attempt r.demand w (sceneAt K moves k).child).1 = some r.answer ∧
      (sceneAt K moves (k + 1)).child = (K.attempt r.demand w (sceneAt K moves k).child).2 := by
  obtain ⟨m, next, returned⟩ := Option.bind_eq_some_iff.mp returned
  cases m with
  | finish => cases returned
  | enter t d => cases returned
  | proceed t w =>
    obtain ⟨d, called, returned⟩ := Option.bind_eq_some_iff.mp returned
    obtain ⟨answer, answered, rfl⟩ := Option.map_eq_some_iff.mp returned
    refine ⟨w, next, answered, ?_⟩
    rw [sceneAt_succ next, child_proceed, called]
    rfl

variable (laws : Lawful K Sound Released) (truthful : Truthful K moves)
include laws truthful

theorem onward_succ {k : Nat} (sound : Sound (sceneAt K moves k).child) :
    Onward K Sound Released (sceneAt K moves k).child (sceneAt K moves (k + 1)).child := by
  cases next : moves[k]? with
  | none =>
    rw [sceneAt_succ_none next]
    exact .refl sound
  | some m =>
    rw [sceneAt_succ next]
    exact onward_apply laws sound (truthful k m next)

theorem sound_sceneAt (k : Nat) : Sound (sceneAt K moves k).child := by
  induction k with
  | zero => exact laws.sound
  | succ k ih => exact (onward_succ laws truthful ih).sound

theorem onward_sceneAt {k n : Nat} (le : k ≤ n) :
    Onward K Sound Released (sceneAt K moves k).child (sceneAt K moves n).child := by
  induction le with
  | refl => exact .refl (sound_sceneAt laws truthful k)
  | @step n _ ih => exact ih.trans (onward_succ laws truthful (sound_sceneAt laws truthful n))

/-- A wait that returns gives what is decided; if it reaps, the child is released from then on. -/
theorem Waited.decided {k : Nat} {reap : Bool} {o : Outcome} (waited : Waited K moves k reap o) :
    decidedAt K moves k = some o ∧
      (reap = true → Released (sceneAt K moves (k + 1)).child) := by
  obtain ⟨t, returned⟩ := waited
  obtain ⟨w, next, told, child⟩ := returnAt_eq_some returned
  have looked := laws.look reap w _ (sound_sceneAt laws truthful k) (truthful k _ next)
  rw [child]
  exact looked.of_told (by simpa [Kind.attempt] using told)

theorem Killed.struck {k : Nat} {fault? : Option Fault} (killed : Killed K moves k fault?) :
    Struck K Sound Released (sceneAt K moves k).child
      (fault?, (sceneAt K moves (k + 1)).child) := by
  obtain ⟨t, returned⟩ := killed
  obtain ⟨w, next, reported, child⟩ := returnAt_eq_some returned
  obtain rfl : (K.kill w (sceneAt K moves k).child).1 = fault? := by
    simpa [Kind.attempt] using reported
  rw [child]
  exact laws.kill w _ (sound_sceneAt laws truthful k) (truthful k _ next)

/-- By induction on the steps: as long as nobody kills, only the child itself decides. -/
theorem own_of_decidedAt {k : Nat} (unkilled : ∀ j < k, ∀ fault?, ¬ Killed K moves j fault?)
    {o : Outcome} (decided : decidedAt K moves k = some o) : K.own? = some o := by
  induction k with
  | zero => exact laws.fresh_own o decided
  | succ k ih =>
    have earlier := ih fun j lt => unkilled j (Nat.lt_succ_of_lt lt)
    cases next : moves[k]? with
    | none =>
      rw [decidedAt, sceneAt_succ_none next] at decided
      exact earlier decided
    | some m =>
      rw [decidedAt, sceneAt_succ next] at decided
      have unstruck (t : Nat) (fault? : Option Fault) :
          m.return? K (sceneAt K moves k) ≠ some ⟨t, .kill, .killed fault?⟩ := fun returned =>
        unkilled k (Nat.lt_succ_self k) fault? ⟨t, by rw [returnAt, next]; exact returned⟩
      obtain before | own := own_apply laws (sound_sceneAt laws truthful k) (truthful k m next)
        unstruck decided
      · exact earlier before
      · exact own

/-- What is decided when a wait returned stays, and if it reaps, so does the release. -/
theorem Waited.reaped {j k : Nat} {o : Outcome} (waited : Waited K moves j true o) (lt : j < k) :
    decidedAt K moves k = some o ∧ Released (sceneAt K moves k).child ∧
      K.signals (sceneAt K moves k).child = K.signals (sceneAt K moves (j + 1)).child := by
  obtain ⟨decided, released⟩ := waited.decided laws truthful
  have onward := onward_sceneAt laws truthful (k := j + 1) lt
  exact ⟨(onward_sceneAt laws truthful (Nat.le_of_lt lt)).decided o decided,
    onward.released (released rfl), onward.signals (released rfl)⟩

theorem settled_of_lawful : Settled K moves where
  told _ _ _ waited := (waited.decided laws truthful).1
  stays _ _ o le := (onward_sceneAt laws truthful le).decided o
  agreed j k _ _ o o' waited waited' := by
    have decided := (waited.decided laws truthful).1
    have decided' := (waited'.decided laws truthful).1
    obtain le | le := Nat.le_total j k
    · have later := (onward_sceneAt laws truthful le).decided o decided
      exact Option.some.inj (later.symm.trans decided')
    · have later := (onward_sceneAt laws truthful le).decided o' decided'
      exact Option.some.inj (decided.symm.trans later)
  killed _ _ killed := (killed.struck laws truthful).decides
  own _ _ _ waited unkilled :=
    own_of_decidedAt laws truthful unkilled (waited.decided laws truthful).1
  prompt k t reap o decided called := by
    have told := laws.prompt reap _ o (sound_sceneAt laws truthful k) decided
    simp [Move.return?, called, Kind.attempt, told]
  recorded j k t reap o w waited lt called answers := by
    obtain ⟨decided, released, -⟩ := waited.reaped laws truthful lt
    have looked := laws.look reap w _ (sound_sceneAt laws truthful k) answers
    simp [Move.return?, called, Kind.attempt, looked.of_released released decided]
  spared j k t o w waited lt called answers := by
    obtain ⟨-, released, -⟩ := waited.reaped laws truthful lt
    have struck := laws.kill w _ (sound_sceneAt laws truthful k) answers
    simp [Move.return?, called, Kind.attempt, struck.works released]
  unsignalled _ _ _ waited lt := (waited.reaped laws truthful lt).2.2

end settled

/-! ### The two kinds -/

/-- A kill of a child of a script works, and the child is as good as released once its outcome is
decided. -/
theorem lawful_scripted (pid : Nat) (own? : Option Outcome) :
    Lawful (scripted pid own?) (·.killFault? = none) (·.outcome?.isSome = true) where
  sound := rfl
  fresh_own _ := id
  finish _ sound := .refl sound
  finish_own _ _ := .inl
  look reap _ c sound _ := by
    change Looked _ _ _ reap c (c.outcome?, c)
    cases e : c.outcome? with
    | none => exact .untold (by simp [e])
    | some o => exact .told e (.refl sound) fun _ => by simp [e]
  prompt _ _ _ _ := id
  kill _ _ sound _ :=
    ⟨⟨sound, fun _ => Child.outcome?_kill, fun _ => rfl, fun _ => rfl⟩, rfl, fun _ => sound⟩

/-- A handle has a record once it gave anything up, and what it has on record is how the child
ended. -/
structure Recorded (h : Handle) : Prop where
  kept : h.known? = none → h.released = false ∧ h.collected = false
  right : ∀ o, h.known? = some o → h.outcome? = some o

section handles
variable {pid : Nat} {own : Status} {h : Handle}

theorem Recorded.finish (recorded : Recorded h) (s : Status) :
    Onward (real pid own) Recorded (·.released = true) h (h.finish s) := by
  have decided (o : Outcome) (e : h.outcome? = some o) : (h.finish s).outcome? = some o := by
    rw [Handle.outcome?_finish, e]
    rfl
  exact ⟨⟨recorded.kept, fun o known => decided o (recorded.right o known)⟩, decided, id,
    fun _ => rfl⟩

/-- A look tells what is on record, or puts on record what it tells. -/
theorem Recorded.hear (recorded : Recorded h) (reap : Bool) {w : Word} (truthful : w.Truthful h) :
    Looked (real pid own) Recorded (·.released = true) reap h (h.hear reap w.news) := by
  unfold Handle.hear
  cases known : h.known? with
  | some o =>
    have decided := recorded.right o known
    refine .told decided ⟨⟨by simp, ?_⟩, fun _ => id, fun released => ?_, fun _ => rfl⟩
      fun reaps => ?_
    · rintro o ⟨⟩
      exact decided
    · simp [released]
    · simp [reaps]
  | none =>
    obtain ⟨kept, -⟩ := recorded.kept known
    simp only [kept, Bool.false_eq_true, if_false]
    cases e : w.news with
    | running => exact .untold (by simp [kept])
    | ended s =>
      have decided : h.outcome? = some s.outcome := by
        rw [Handle.outcome?, truthful.right s e]
        rfl
      refine .told decided ⟨⟨by simp, ?_⟩, fun _ => id, fun released => ?_, fun _ => rfl⟩ id
      · rintro o ⟨⟩
        exact decided
      · simp [kept] at released
    | failed cause => exact absurd e (truthful.able cause)

theorem Recorded.hear_news (recorded : Recorded h) (reap : Bool) {o : Outcome}
    (decided : h.outcome? = some o) : (h.hear reap h.news).1 = some o := by
  unfold Handle.hear
  cases known : h.known? with
  | some o' => exact (recorded.right o' known).symm.trans decided
  | none =>
    obtain ⟨s, ended, rfl⟩ := Option.map_eq_some_iff.mp decided
    simp [(recorded.kept known).1, Handle.news, ended]

/-- A child that runs is not on record, so that a kill of it is a signal. -/
theorem Recorded.kill (recorded : Recorded h) {w : Word} (truthful : w.Truthful h) :
    Struck (real pid own) Recorded (·.released = true) h (h.kill w.refusal?) := by
  unfold Handle.kill
  split
  · next given =>
    cases known : h.known? with
    | none => simp [recorded.kept known] at given
    | some o =>
      have decided : (real pid own).decided? h = some o := recorded.right o known
      exact ⟨.refl recorded, by simp [decided], fun _ => rfl⟩
  · next held =>
    have unreleased (released : h.released = true) : False := held (by simp [released])
    cases refused : w.refusal? with
    | none =>
      have finished : Onward (real pid own) Recorded (·.released = true) h (h.finish .signalled) :=
        recorded.finish .signalled
      exact ⟨⟨⟨finished.sound.kept, finished.sound.right⟩, finished.decided, id,
        fun released => (unreleased released).elim⟩, h.outcome?_finish .signalled, fun _ => rfl⟩
    | some cause =>
      cases ended : h.status? with
      | none => simp [truthful.kills ended] at refused
      | some s =>
        exact ⟨.refl recorded, by simp [real, Handle.outcome?, ended],
          fun released => (unreleased released).elim⟩

end handles

theorem lawful_real (pid : Nat) (own : Status) :
    Lawful (real pid own) Recorded (·.released = true) where
  sound := ⟨fun _ => ⟨rfl, rfl⟩, nofun⟩
  fresh_own := nofun
  finish _ recorded := recorded.finish own
  finish_own h o decided := by
    have decided : (h.finish own).outcome? = some o := decided
    rw [Handle.outcome?_finish] at decided
    cases e : h.outcome? with
    | none => exact .inr (by simpa [e, real] using decided)
    | some o' => exact .inl (by simpa [e, real] using decided)
  look reap _ _ recorded truthful := recorded.hear reap truthful
  prompt reap _ _ recorded := recorded.hear_news reap
  kill _ _ recorded truthful := recorded.kill truthful

/-- The outcome of a child is decided once, in whatever order any number of threads wait for it and
kill it: of a child of a script, and of a child of the system as long as the system can tell how
children ended and lets a child that runs be killed. -/
theorem outcomes_settled :
    (∀ pid own? moves, Settled (scripted pid own?) moves) ∧
      ∀ pid own moves, Truthful (real pid own) moves → Settled (real pid own) moves := by
  constructor
  · intro pid own? moves
    have truthful : Truthful (scripted pid own?) moves := by
      intro k m _
      cases m <;> trivial
    exact settled_of_lawful (lawful_scripted pid own?) truthful
  · intro pid own moves truthful
    exact settled_of_lawful (lawful_real pid own) truthful

/-- One thread waits twice and another one kills twice. The first kill comes just before the child
would have ended by itself; the second one is never heard of by the system, which would not have let
it signal anybody. -/
theorem outcomes_settled_race :
    let moves : List (Move Word) :=
      [.enter 0 (.wait false), .proceed 0 {}, .enter 1 .kill, .proceed 1 {}, .finish, .proceed 0 {},
        .proceed 0 { news := .ended .signalled }, .enter 0 (.wait true), .proceed 0 {},
        .enter 1 .kill, .proceed 1 { refusal? := some .permissionDenied }]
    Truthful (real 1000 (.exited 3)) moves ∧ Settled (real 1000 (.exited 3)) moves ∧
      (List.range 11).filterMap (returnAt (real 1000 (.exited 3)) moves) =
        [⟨1, .kill, .killed none⟩, ⟨0, .wait false, .outcome .unknown⟩,
          ⟨0, .wait true, .outcome .unknown⟩, ⟨1, .kill, .killed none⟩] ∧
      (sceneAt (real 1000 (.exited 3)) moves 11).child.signals = 1 := by
  intro moves
  have idle (h : Handle) : ({} : Word).Truthful h := ⟨nofun, nofun, fun _ => rfl⟩
  have truthful : Truthful (real 1000 (.exited 3)) moves := fun k m next =>
    match k, next with
    | 0, rfl | 2, rfl | 4, rfl | 7, rfl | 9, rfl => trivial
    | 1, rfl | 3, rfl | 5, rfl | 8, rfl => idle _
    | 6, rfl => ⟨nofun, fun s told => by cases told; rfl, fun _ => rfl⟩
    | 10, rfl => ⟨nofun, nofun, nofun⟩
  exact ⟨truthful, outcomes_settled.2 1000 (.exited 3) moves truthful, rfl, rfl⟩

end DebugBridge.Shared
