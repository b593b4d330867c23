import DebugBridge.Proofs.Host.Calls

/-!
# Two runs of the same activity

One run is free of interrupts; the other is cut by a single strike, at once or a little later. Until
the strike the two hosts differ in nothing but what is scheduled; from then on the cut run issues
nothing more, while the free run may go on.
-/

namespace DebugBridge

open Host Relation

namespace Host

def timed (strikes : List Strike) (alarms : List Alarm) (h : Host) : Host :=
  { h with strikes := strikes, alarms := alarms }

/-- Nothing will happen by itself, and the token is not interrupted. -/
structure Still (token : String) (h : Host) : Prop where
  strikes : h.strikes = []
  alarms : h.alarms = []
  cues : h.cues = []
  idle : h.interrupted token = false

/-- What is left of a strike: itself, or nothing, or its alarm if it comes later. -/
structure Pending (s : Strike) (strikes : List Strike) (alarms : List Alarm) (h : Host) : Prop where
  strikes : strikes = [] ∨ strikes = [s]
  alarms : ∀ a ∈ alarms, a.token = s.token ∧ s.later = true ∧ s.command < h.commands.length

/-- The strike has not taken effect: the cut host is the free one, with the strike pending. -/
inductive Shadows (s : Strike) : Host → Host → Prop
  | intro {free : Host} {strikes : List Strike} {alarms : List Alarm} : Still s.token free →
      Pending s strikes alarms free → Shadows s (free.timed strikes alarms) free

/-- The strike took effect: the cut host has issued a beginning of what the free host has issued. -/
structure Struck (s : Strike) (cut free : Host) : Prop where
  raised : cut.interrupted s.token = true
  commands : cut.commands <:+ free.commands
  reached : s.command < cut.commands.length
  exact : s.later = false → cut.commands.length = s.command + 1

/-- Once the strike took effect it stays so, whatever the two runs do through the token. -/
theorem Struck.onward {s : Strike} {cut cut' free free' : Host} (struck : Struck s cut free)
    (a : Onward s.token cut cut') (c : Onward s.token free free') : Struck s cut' free' := by
  have silent := a.silent struck.raised
  exact ⟨a.flags _ struck.raised, silent ▸ struck.commands.trans c.commands,
    silent ▸ struck.reached, silent ▸ struck.exact⟩

end Host

/-- How an activity is tracked from a cut and a free host. -/
inductive Tracks (s : Strike) {α : Type} (m : Act α) (cut free : Host) : Prop
  | alike {a : α} {cut' free' : Host} : m cut = .ok a cut' → m free = .ok a free' →
      Shadows s cut' free' → Tracks s m cut free
  | blocked {halt : Halt} {cut' free' : Host} : m cut = .error halt cut' →
      m free = .error halt free' → Shadows s cut' free' → Tracks s m cut free
  | struck : Struck s (Act.after m cut) (Act.after m free) → Tracks s m cut free

/-- How an activity is tracked depends on nothing but its runs from the two hosts. -/
theorem Tracks.congr {s : Strike} {α : Type} {m m' : Act α} {cut cut' free free' : Host}
    (tracks : Tracks s m' cut' free') (e : m cut = m' cut') (e' : m free = m' free') :
    Tracks s m cut free := by
  cases tracks with
  | alike r r' shadows => exact .alike (e.trans r) (e'.trans r') shadows
  | blocked r r' shadows => exact .blocked (e.trans r) (e'.trans r') shadows
  | struck struck =>
    refine .struck ?_
    unfold Act.after at *
    rw [e, e']
    exact struck

/-- The steps of a course only go onward for the token, allow for whatever happens by itself, and
preserve what is known of the host. -/
structure Course (token : String) (R : Host → Host → Prop) (I : Host → Prop) : Prop where
  tolerant : Tolerant R
  onward : ∀ h h', R h h' → Onward token h h'
  stable : ∀ h h', R h h' → I h → I h'

theorem Course.onwards {token : String} {R : Host → Host → Prop} {I : Host → Prop} {h h' : Host}
    (course : Course token R I) (run : ReflTransGen R h h') : Onward token h h' := by
  induction run with
  | refl => exact (Quiet.refl h).onward token
  | tail _ step ih => exact ih.trans (course.onward _ _ step)

theorem Course.stables {token : String} {R : Host → Host → Prop} {I : Host → Prop} {h h' : Host}
    (course : Course token R I) (run : ReflTransGen R h h') (known : I h) : I h' := by
  induction run with
  | refl => exact known
  | tail _ step ih => exact course.stable _ _ step ih

/-- The activity takes the steps of a course and is tracked from all hosts of which something is
known. -/
structure Follows (s : Strike) (R : Host → Host → Prop) (I : Host → Prop) {α : Type} (m : Act α) :
    Prop where
  within : Act.Within R m
  tracks : ∀ cut free, Shadows s cut free → I free → Tracks s m cut free

variable {α β : Type} {s : Strike} {R : Host → Host → Prop} {I : Host → Prop}

/-- Tracking an activity and, from where it is still tracked, the rest. -/
theorem Tracks.bind {m : Act α} {f : α → Act β} {cut free : Host} (course : Course s.token R I)
    (first : Tracks s m cut free) (rest : ∀ a, Act.Within R (f a))
    (further : ∀ a cut' free', m free = .ok a free' → Shadows s cut' free' →
      Tracks s (f a) cut' free') : Tracks s (m >>= f) cut free := by
  cases first with
  | @alike a cut' free' e e' shadows =>
    have eq : (m >>= f) cut = f a cut' := by rw [Act.bind_apply, e]
    have eq' : (m >>= f) free = f a free' := by rw [Act.bind_apply, e']
    cases further a cut' free' e' shadows with
    | alike r r' shadows => exact .alike (eq.trans r) (eq'.trans r') shadows
    | blocked r r' shadows => exact .blocked (eq.trans r) (eq'.trans r') shadows
    | struck struck =>
      refine .struck ?_
      rw [Act.after_bind_ok e, Act.after_bind_ok e']
      exact struck
  | blocked e e' shadows =>
    exact .blocked (by rw [Act.bind_apply, e]) (by rw [Act.bind_apply, e']) shadows
  | struck struck =>
    exact .struck (struck.onward (course.onwards (Act.within_rest rest cut))
      (course.onwards (Act.within_rest rest free)))

theorem follows_pure (a : α) : Follows s R I (pure a : Act α) :=
  ⟨Act.within_pure a, fun _ _ shadows _ => .alike rfl rfl shadows⟩

section course
variable (course : Course s.token R I)
include course

theorem follows_bind {m : Act α} {f : α → Act β} (first : Follows s R I m)
    (rest : ∀ a, Follows s R I (f a)) : Follows s R I (m >>= f) :=
  ⟨Act.within_bind first.within fun a => (rest a).within, fun cut free shadows known =>
    (first.tracks cut free shadows known).bind course (fun a => (rest a).within)
      fun a cut' free' e shadows' => (rest a).tracks cut' free' shadows'
        (course.stables (first.within.ok e) known)⟩

end course

/-- The activity neither looks at what is scheduled nor schedules anything. -/
structure Steady (token : String) (m : Act α) : Prop where
  timed : ∀ strikes alarms h, m (h.timed strikes alarms) = match m h with
    | .ok a h' => .ok a (h'.timed strikes alarms)
    | .error halt h' => .error halt (h'.timed strikes alarms)
  still : ∀ h, Still token h → Still token (Act.after m h)

/-- A steady activity makes no difference between the two hosts. -/
theorem follows_steady {m : Act α} (course : Course s.token R I) (within : Act.Within R m)
    (steady : Steady s.token m) : Follows s R I m := by
  refine ⟨within, fun cut free shadows _ => ?_⟩
  obtain @⟨free, strikes, alarms, still, pending⟩ := shadows
  have still' := steady.still free still
  have onward := course.onwards (within free)
  have pending' : Pending s strikes alarms (Act.after m free) :=
    ⟨pending.strikes, fun a mem =>
      have ⟨token, later, lt⟩ := pending.alarms a mem
      ⟨token, later, Nat.lt_of_lt_of_le lt onward.commands.length_le⟩⟩
  have timed := steady.timed strikes alarms free
  unfold Act.after at still' pending'
  cases e : m free with
  | ok a free' =>
    rw [e] at timed still' pending'
    exact .alike timed e ⟨still', pending'⟩
  | error halt free' =>
    rw [e] at timed still' pending'
    exact .blocked timed e ⟨still', pending'⟩

/-- The moment to which the strike is bound: it takes effect, or its alarm is set. -/
theorem tracks_strike {number : Nat} {point : Point} {cut free : Host}
    (shadows : Shadows s cut free) (latest : number + 1 = free.commands.length) :
    Tracks s (modify (Host.strike number point)) cut free := by
  obtain @⟨free, strikes, alarms, still, pending⟩ := shadows
  have free' : (modify (Host.strike number point) : Act Unit) free = .ok () free := by
    rw [Act.modify_apply, strike_nil still.strikes]
  obtain rfl | rfl := pending.strikes
  · refine .alike ?_ free' ⟨still, pending⟩
    rw [Act.modify_apply, strike_nil rfl]
  · by_cases now : s.command = number ∧ s.point = point
    · obtain ⟨rfl, rfl⟩ := now
      have struck : (free.timed [s] alarms).strike s.command s.point =
          (free.timed [] alarms).suffer s := by
        simp [strike, timed]
      cases later : s.later with
      | true =>
        have suffered : (free.timed [] alarms).suffer s =
            free.timed [] (alarms ++ [⟨free.clock + strikeDelay, s.token⟩]) := by
          simp [suffer, later, timed]
        refine .alike (by rw [Act.modify_apply, struck, suffered]) free'
          ⟨still, .inl rfl, fun a mem => ?_⟩
        obtain old | rfl := List.mem_append.mp mem |>.imp_right List.mem_singleton.mp
        · exact pending.alarms a old
        · exact ⟨rfl, later, by omega⟩
      | false =>
        have suffered : (free.timed [] alarms).suffer s =
            (free.timed [] alarms).interrupt s.token := by
          simp [suffer, later]
        have commands : ((free.timed [] alarms).interrupt s.token).commands = free.commands :=
          (quiet_interrupt s.token _).commands
        refine .struck ?_
        rw [Act.after_ok (Act.modify_apply _ _), Act.after_ok free', struck, suffered]
        refine ⟨interrupted_interrupt s.token _, ?_, ?_, fun _ => ?_⟩
        · exact commands ▸ List.suffix_refl _
        · rw [commands]
          omega
        · rw [commands, latest]
    · have untouched : (free.timed [s] alarms).strike number point = free.timed [s] alarms := by
        have no : (decide (s.command = number) && decide (s.point = point)) = false := by
          simpa using now
        simp only [strike, timed, List.filter_cons, List.filter_nil, no, Bool.not_false,
          Bool.false_eq_true, if_true, if_false, List.foldl_nil]
      exact .alike (by rw [Act.modify_apply, untouched]) free' ⟨still, pending⟩

theorem mem_of_nextAlarm? {a : Alarm} {h : Host} (e : h.nextAlarm? = some a) : a ∈ h.alarms := by
  have best : ∀ b, h.nextAlarm? = some b → b ∈ h.alarms := by
    unfold nextAlarm?
    refine List.foldlRecOn (motive := fun best? => ∀ b, best? = some b → b ∈ h.alarms) _ _
      (by simp) fun best? known b mem c eq => ?_
    cases best? with
    | none => exact Option.some.inj eq ▸ mem
    | some best =>
      dsimp only at eq
      split at eq
      · exact Option.some.inj eq ▸ mem
      · exact known c eq
  exact best a e

/-- While an alarm is set, something is still to come. -/
theorem pending_of_mem {a : Alarm} {h : Host} (mem : a ∈ h.alarms) :
    ∃ fuel, h.pending = fuel + 1 := by
  have alarms : 0 < h.alarms.length := List.length_pos_of_mem mem
  have pending : h.alarms.length ≤ h.pending := Nat.le_add_right _ _
  exact Nat.exists_eq_succ_of_ne_zero (by omega)

theorem pending_still {token : String} {h : Host} (still : Still token h) : h.pending = 0 := by
  simp [Host.pending, still.alarms, still.cues]

/-- With nothing to come a sleep lasts as long as it should. -/
theorem sleep_still {token : String} {h : Host} {duration : Nat} (still : Still token h)
    (shown : h.shows (h.clock + duration) = true) : sleep token duration h = .ok true
      { h.undertake (.nap duration) with clock := max h.clock (h.clock + duration) } := by
  have idle : (h.undertake (.nap duration)).interrupted token = false := still.idle
  simp only [sleep, shown, pending_still still, dozeWith, idle]
  rfl

/-- The alarm of the strike goes off. -/
theorem struck_ring {free : Host} {strikes : List Strike} {alarms : List Alarm} {a : Alarm}
    (pending : Pending s strikes alarms free) (mem : a ∈ alarms) :
    Struck s ((free.timed strikes alarms).ring a) free := by
  obtain ⟨own, later, lt⟩ := pending.alarms a mem
  have commands : ((free.timed strikes alarms).ring a).commands = free.commands :=
    (quiet_interrupt a.token { free.timed strikes alarms with
      alarms := alarms.erase a, clock := max free.clock a.due }).commands
  refine ⟨?_, commands ▸ List.suffix_refl _, commands ▸ lt, fun now => ?_⟩
  · rw [← own]
    exact interrupted_interrupt a.token _
  · simp [later] at now

theorem wake?_timed (strikes : List Strike) (alarms : List Alarm) {token : String} {free : Host}
    (still : Still token free) (deadline? : Option Nat) :
    (free.timed strikes alarms).wake? deadline? =
      ((free.timed strikes alarms).nextAlarm?.filter fun a => deadline?.all (a.due < ·)).map
        fun a => .ok ((free.timed strikes alarms).ring a) := by
  have cues : (free.timed strikes alarms).cues = [] := still.cues
  unfold wake?
  rw [cues]
  generalize (free.timed strikes alarms).nextAlarm?.filter
    (fun a => deadline?.all (a.due < ·)) = next
  cases next <;> rfl

section blocking
variable (course : Course s.token R I)
include course

/-- Where the free run is blocked for good, the cut run is too, or its alarm wakes it. -/
theorem follows_blockUntil {ready : Host → Bool}
    (blind : ∀ strikes alarms h, ready (h.timed strikes alarms) = ready h) :
    Follows s R I (blockUntil ready) := by
  refine ⟨within_blockUntil course.tolerant ready, fun cut free shadows _ => ?_⟩
  obtain @⟨free, strikes, alarms, still, pending⟩ := shadows
  cases e : ready free with
  | true =>
    exact .alike (blockUntil_ready ((blind strikes alarms free).trans e)) (blockUntil_ready e)
      ⟨still, pending⟩
  | false =>
    have e' : ready (free.timed strikes alarms) = false := (blind strikes alarms free).trans e
    have stuck : blockUntil ready free = .error .forever free := by
      simp [blockUntil, pending_still still, blockWith, e]
    have woken := wake?_timed strikes alarms still none
    cases next : (free.timed strikes alarms).nextAlarm?.filter fun a =>
        (none : Option Nat).all (a.due < ·) with
    | none =>
      refine .blocked ?_ stuck ⟨still, pending⟩
      unfold blockUntil
      rw [next] at woken
      cases (free.timed strikes alarms).pending <;> simp [blockWith, e', woken]
    | some a =>
      have mem : a ∈ alarms := mem_of_nextAlarm? (Option.filter_eq_some_iff.mp next).1
      obtain ⟨fuel, count⟩ := pending_of_mem (h := free.timed strikes alarms) mem
      have eq : Act.after (blockUntil ready) (free.timed strikes alarms) =
          Act.after (α := Unit) (fun h => h.blockWith ready fuel)
            ((free.timed strikes alarms).ring a) := by
        rw [next] at woken
        simp [Act.after, blockUntil, count, blockWith, e', woken]
      refine .struck ?_
      rw [eq, Act.after_error stuck]
      exact (struck_ring pending mem).onward
        (course.onwards (within_blockWith course.tolerant ready fuel _))
        ((Quiet.refl free).onward s.token)

/-- The cut run sleeps as long as the free one, unless its alarm wakes it. -/
theorem follows_sleep (duration : Nat) : Follows s R I (sleep s.token duration) := by
  refine ⟨within_sleep course.tolerant s.token duration, fun cut free shadows _ => ?_⟩
  obtain @⟨free, strikes, alarms, still, pending⟩ := shadows
  let begun := free.undertake (.nap duration)
  have still' : Still s.token begun := ⟨still.strikes, still.alarms, still.cues, still.idle⟩
  have pending' : Pending s strikes alarms begun := ⟨pending.strikes, pending.alarms⟩
  have idle : (begun.timed strikes alarms).interrupted s.token = false := still.idle
  rcases shown : free.shows (free.clock + duration) with _ | _
  · exact .blocked (sleep_panicked (h := free.timed strikes alarms) shown s.token)
      (sleep_panicked shown s.token) ⟨still', pending'⟩
  have shown' : (free.timed strikes alarms).shows ((free.timed strikes alarms).clock + duration) =
      true := shown
  have slept := sleep_still still shown
  have woken := wake?_timed strikes alarms still' (some (free.clock + duration))
  cases next : (begun.timed strikes alarms).nextAlarm?.filter fun a =>
      (some (free.clock + duration)).all (a.due < ·) with
  | none =>
    refine .alike ?_ slept ⟨⟨still.strikes, still.alarms, still.cues, still.idle⟩,
      ⟨pending.strikes, pending.alarms⟩⟩
    rw [next] at woken
    unfold sleep
    simp only [shown', if_true]
    change (begun.timed strikes alarms).dozeWith s.token (free.clock + duration) _ = _
    cases (free.timed strikes alarms).pending <;>
      simp only [dozeWith, idle, woken, Option.map_none, Bool.false_eq_true, if_false] <;> rfl
  | some a =>
    have mem : a ∈ alarms := mem_of_nextAlarm? (Option.filter_eq_some_iff.mp next).1
    obtain ⟨fuel, count⟩ := pending_of_mem (h := free.timed strikes alarms) mem
    have eq : Act.after (sleep s.token duration) (free.timed strikes alarms) =
        Act.after (α := Bool) (fun h => h.dozeWith s.token (free.clock + duration) fuel)
          ((begun.timed strikes alarms).ring a) := by
      rw [next] at woken
      unfold sleep
      simp only [Act.after, shown', if_true]
      change Act.after (α := Bool) (fun h => h.dozeWith s.token (free.clock + duration)
        (free.timed strikes alarms).pending) (begun.timed strikes alarms) = _
      simp [Act.after, count, dozeWith, idle, woken]
    have quiet : Quiet begun { begun with clock := max begun.clock (free.clock + duration) } :=
      SameWorld.quiet (by constructor <;> rfl)
    refine .struck ?_
    rw [eq, Act.after_ok slept]
    exact (struck_ring pending' mem).onward
      (course.onwards (within_dozeWith course.tolerant s.token _ fuel _)) (quiet.onward s.token)

end blocking
end DebugBridge
