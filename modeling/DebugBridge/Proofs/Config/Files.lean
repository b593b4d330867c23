import DebugBridge.Config.Files
import Mathlib.Tactic.SplitIfs

/-!
# What stays and what changes in the files

Making directories never changes what is already there. Writing a file changes one place, and the
directories on the way to it are other places, so the same path leads to the new content afterwards.
-/

namespace DebugBridge

def Destination.place : Destination → Place
  | .present p _ => p
  | .free p => p

def Destination.content? : Destination → Option FileEntry
  | .present _ e => some e
  | .free _ => none

namespace Files

variable {fs fs' : Files} {p q : Place} {e : FileEntry} {d : Destination} {path : String}

/-! ### Setting one place -/

theorem entry?_put_self (named : p.names ≠ []) : Files.entry? (fs.put p e) p = some e := by
  have none : (fs.entries.filter (·.1 ≠ p)).find? (·.1 = p) = none := by
    rw [List.find?_eq_none]
    intro entry mem
    simpa using (List.mem_filter.mp mem).2
  have occupied : p.names.isEmpty = false := by simpa using named
  simp only [put, entry?, occupied, List.find?_append, none]
  simp

theorem entry?_put_ne (other : q ≠ p) : Files.entry? (fs.put p e) q = fs.entry? q := by
  have kept : (fs.entries.filter (·.1 ≠ p)).find? (·.1 = q) = fs.entries.find? (·.1 = q) := by
    rw [List.find?_filter]
    congr 1
    funext entry
    by_cases here : entry.1 = q <;> simp [here, other]
  simp only [put, entry?, List.find?_append, kept]
  simp [Ne.symm other]

/-! ### Following a path -/

theorem entry?_follow {names : List String} (ends : fs.follow q names = .ok d) :
    fs.entry? d.place = d.content? := by
  fun_induction follow fs q names <;> simp_all
  all_goals
    subst ends
    assumption

/-- Where all directories have stayed, following a path ends at the same place. -/
theorem follow_kept
    (kept : ∀ p, fs.entry? p = some .directory → fs'.entry? p = some .directory)
    {names : List String} (ends : fs.follow q names = .ok d) :
    fs'.follow q names = fs'.follow d.place [] := by
  induction names generalizing q with
  | nil =>
    have here : q = d.place := by
      rw [follow] at ends
      split at ends <;> cases ends <;> rfl
    rw [here]
  | cons name rest ih =>
    rw [follow] at ends ⊢
    rcases there : fs.entry? q with _ | (_ | _) <;> rw [there] at ends
    · cases ends
    · cases ends
    · rw [kept q there]
      dsimp only at ends ⊢
      split_ifs at ends ⊢ <;> exact ih ends

/-- What is set at the end of a path is found by following the path: if that was no directory, the
directories on the way are other places. -/
theorem follow_put {names : List String} (ends : fs.follow q names = .ok d)
    (passive : d.content? ≠ some .directory) (e : FileEntry) :
    (fs.put d.place e).follow q names = .ok (.present d.place e) := by
  rw [← entry?_follow ends] at passive
  have named : d.place.names ≠ [] := fun root => passive (by simp [Files.entry?, root])
  rw [follow_kept (fun p directory => ?_) ends, follow, entry?_put_self named]
  have other : p ≠ d.place := fun same => passive (same ▸ directory)
  rw [entry?_put_ne other, directory]

def Extends (fs fs' : Files) : Prop := ∀ p e, fs.entry? p = some e → fs'.entry? p = some e

theorem Extends.refl (fs : Files) : Extends fs fs := fun _ _ present => present

theorem Extends.trans {fs'' : Files} (first : Extends fs fs') (second : Extends fs' fs'') :
    Extends fs fs'' := fun p e present => second p e (first p e present)

theorem Extends.follow (more : Extends fs fs') {names : List String}
    (ends : fs.follow q names = .ok (.present p e)) :
    fs'.follow q names = .ok (.present p e) := by
  have present : fs'.entry? p = some e := more p e (entry?_follow ends)
  rw [follow_kept (fun p directory => more p _ directory) ends, Destination.place, Files.follow,
    present]

/-! ### Reading and writing -/

/-- A path ends where following its parts leads, except at a file if it ends in a slash. -/
theorem resolve_eq_ok : fs.resolve path = .ok d ↔ path.isEmpty = false ∧
    fs.follow { fromRoot := path.toList.head? = some '/' } (parts path) = .ok d ∧
    (path.toList.getLast? = some '/' → ∀ bytes, d.content? ≠ some (.file bytes)) := by
  by_cases empty : path.isEmpty = true
  · simp [resolve, empty]
    exact nofun
  · simp only [resolve, empty, true_and]
    rcases ends : fs.follow { fromRoot := path.toList.head? = some '/' } (parts path) with
      cause | (⟨p, bytes | _⟩ | p)
    · exact ⟨nofun, nofun⟩
    · by_cases slash : path.toList.getLast? = some '/'
      · simp [slash, bind, Except.bind, throw, throwThe, MonadExceptOf.throw]
        rintro rfl
        exact ⟨bytes, rfl⟩
      · simp [slash, bind, Except.bind, pure, Except.pure]
    all_goals
      simp [bind, Except.bind, pure, Except.pure]
      rintro rfl
      simp [Destination.content?]

theorem Extends.read (more : Extends fs fs') {bytes : List UInt8}
    (before : fs.read path = .ok (some bytes)) : fs'.read path = .ok (some bytes) := by
  rcases found : fs.resolve path with (_ | _) | (⟨p, _ | _⟩ | _) <;>
    simp only [Files.read, found, reduceCtorEq, Except.ok.injEq, Option.some.injEq] at before
  subst before
  obtain ⟨nonempty, ends, file⟩ := resolve_eq_ok.mp found
  have after := resolve_eq_ok.mpr ⟨nonempty, more.follow ends, file⟩
  rw [Files.read, after]

/-- Writing sets the place at which the path ends, where no directory is. -/
theorem write_eq_ok {bytes : List UInt8} : fs.write path bytes = .ok fs' ↔
    ∃ d, fs.resolve path = .ok d ∧ d.content? ≠ some .directory ∧ path.toList.getLast? ≠ some '/' ∧
      fs' = fs.put d.place (.file bytes) := by
  rcases found : fs.resolve path with (_ | _) | (⟨p, old | _⟩ | p)
  · simp [write, found]
  · simp [write, found]
  · obtain ⟨-, -, slash⟩ := resolve_eq_ok.mp found
    have no_slash : path.toList.getLast? ≠ some '/' := fun last => slash last old rfl
    simp [write, found, Destination.content?, Destination.place, no_slash, eq_comm]
  · simp [write, found, Destination.content?]
  · by_cases slash : path.toList.getLast? = some '/'
    · simp [write, found, slash]
    · simp [write, found, Destination.content?, Destination.place, slash, eq_comm]

/-- What is written at a path is read there afterwards. -/
theorem read_write {bytes : List UInt8} (written : fs.write path bytes = .ok fs') :
    fs'.read path = .ok (some bytes) := by
  obtain ⟨d, found, passive, no_slash, rfl⟩ := write_eq_ok.mp written
  obtain ⟨nonempty, ends, -⟩ := resolve_eq_ok.mp found
  have after : (fs.put d.place (.file bytes)).resolve path =
      .ok (.present d.place (.file bytes)) :=
    resolve_eq_ok.mpr ⟨nonempty, follow_put ends passive _, fun slash => absurd slash no_slash⟩
  rw [Files.read, after]

/-! ### Making directories -/

theorem extends_makeDirectory (made : fs.makeDirectory path = .ok fs') : Extends fs fs' := by
  rcases found : fs.resolve path with (_ | _) | (⟨p, old | _⟩ | p) <;>
    simp only [makeDirectory, found, reduceCtorEq, Except.ok.injEq] at made
  · rw [made]
    exact .refl fs'
  · subst made
    intro q e present
    have free : fs.entry? p = none := entry?_follow (resolve_eq_ok.mp found).2.1
    have other : q ≠ p := by
      rintro rfl
      rw [free] at present
      cases present
    rw [entry?_put_ne other, present]

theorem extends_makeEach (fs : Files) (paths : List String) :
    Extends fs (fs.makeEach paths).2 := by
  fun_induction makeEach fs paths with
  | case1 fs => exact .refl fs
  | case2 fs path rest fs' made ih => exact (extends_makeDirectory made).trans ih
  | case3 fs => exact .refl fs

/-- Making the directories on the way to a path keeps what is there, whether or not that works. -/
theorem extends_makeWay (fs : Files) (path : String) : Extends fs (fs.makeWay path).2 := by
  unfold makeWay
  split
  · exact .refl fs
  · next directory _ =>
    unfold makeDirectories
    split
    · next made => exact extends_makeDirectory made
    · exact extends_makeEach fs _
    · exact .refl fs

/-- A path can be written: the directories on the way can be made, and then it leads to a file, or
to a free place where one can be. -/
structure Writable (fs : Files) (path : String) : Prop where
  way : (fs.makeWay path).1 = .ok ()
  leads : ∃ d, (fs.makeWay path).2.resolve path = .ok d ∧ d.content? ≠ some .directory
  file : path.toList.getLast? ≠ some '/'

theorem Writable.write (writable : fs.Writable path) (bytes : List UInt8) :
    ∃ left, (fs.makeWay path).2.write path bytes = .ok left := by
  obtain ⟨d, leads, passive⟩ := writable.leads
  exact ⟨_, write_eq_ok.mpr ⟨d, leads, passive, writable.file, rfl⟩⟩

end Files
end DebugBridge
