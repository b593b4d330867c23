import DebugBridge.Device.Listing
import DebugBridge.Proofs.Text.Columns
import DebugBridge.Route

/-!
# Offsets of columns

A column is found by its byte offset: it starts just after the run of separators that bears its
number, counted from one, and column 0 starts the text. `runs` lists the maximal runs of a text from
left to right. An offset never falls inside a character or behind the end of the text, so a line
that is cut at such offsets is read as if it were cut between characters.
-/

namespace DebugBridge.Text

/-- Where a run of separators starts and where it ends, in bytes from the start of the text. -/
structure Run where
  start : Nat
  stop : Nat
  deriving DecidableEq, Repr

namespace Run

/-- A maximal run of separators: neither the character in front of it nor the one behind it is a
separator. -/
def Stands (sep : Char → Bool) (s : List Char) (r : Run) : Prop :=
  ∃ front gap back, s = front ++ gap ++ back ∧ r = ⟨byteLength front, byteLength (front ++ gap)⟩ ∧
    gap ≠ [] ∧ (∀ c ∈ gap, sep c = true) ∧ (∀ c, front.getLast? = some c → sep c = false) ∧
    ∀ c, back.head? = some c → sep c = false

/-- The run when a character is put in front of the text. -/
def shift (c : Char) (r : Run) : Run := ⟨c.utf8Size + r.start, c.utf8Size + r.stop⟩

/-- The run when a separator is put in front of the text: a run at the start of the text takes it
in. -/
def grow (c : Char) (r : Run) : Run :=
  ⟨if r.start = 0 then 0 else c.utf8Size + r.start, c.utf8Size + r.stop⟩

end Run

/-- The maximal runs of separators in a text, from left to right. -/
def runs (sep : Char → Bool) : List Char → List Run
  | [] => []
  | c :: s =>
    if sep c then
      if s.head?.any sep then (runs sep s).map (Run.grow c)
      else ⟨0, c.utf8Size⟩ :: (runs sep s).map (Run.shift c)
    else (runs sep s).map (Run.shift c)

example : runs isGap "ä  b\t".toList = [⟨2, 4⟩, ⟨5, 6⟩] := by decide

/-! ### The runs are all maximal runs -/

section stands
variable {sep : Char → Bool} {c : Char} {s : List Char} {r : Run}

theorem byteLength_pos_of_ne_nil (nonempty : s ≠ []) : 0 < byteLength s := by
  cases s with
  | nil => exact absurd rfl nonempty
  | cons c s =>
    have := c.utf8Size_pos
    rw [byteLength_cons]
    omega

/-- In a text that does not begin with a separator no run starts at once. -/
theorem Run.Stands.start_pos (stands : r.Stands sep s)
    (first : ∀ d, s.head? = some d → sep d = false) : 0 < r.start := by
  obtain ⟨front, gap, back, rfl, rfl, nonempty, gaps, -, -⟩ := stands
  refine byteLength_pos_of_ne_nil fun empty => ?_
  obtain ⟨d, gap, rfl⟩ := List.exists_cons_of_ne_nil nonempty
  have gapped : sep d = true := gaps d List.mem_cons_self
  rw [first d (by simp [empty])] at gapped
  cases gapped

theorem not_stands_nil : ¬ r.Stands sep [] := by
  rintro ⟨front, gap, back, eq, -, nonempty, -⟩
  simp_all

/-- A run stands behind the first character: it is a run of the rest of the text, moved. -/
theorem stands_shift (stands : r.Stands sep s) (start : 0 < r.start) :
    (r.shift c).Stands sep (c :: s) := by
  obtain ⟨front, gap, back, rfl, rfl, nonempty, gaps, before, behind⟩ := stands
  refine ⟨c :: front, gap, back, rfl, rfl, nonempty, gaps, fun d last => ?_, behind⟩
  cases front with
  | nil => cases start
  | cons e front => exact before d (by simpa using last)

/-- Behind a character that is no separator every run is one of the rest. -/
theorem stands_cons_char (visible : sep c = false) :
    r.Stands sep (c :: s) ↔ ∃ r' : Run, r'.Stands sep s ∧ r = r'.shift c := by
  constructor
  · rintro ⟨front, gap, back, eq, rfl, nonempty, gaps, before, behind⟩
    cases front with
    | nil =>
      obtain ⟨d, gap, rfl⟩ := List.exists_cons_of_ne_nil nonempty
      obtain ⟨rfl, -⟩ := List.cons.inj eq
      rw [gaps c List.mem_cons_self] at visible
      cases visible
    | cons d front =>
      obtain ⟨rfl, rfl⟩ := List.cons.inj eq
      refine ⟨_, ⟨front, gap, back, rfl, rfl, nonempty, gaps, fun e last => ?_, behind⟩, rfl⟩
      cases front with
      | nil => cases last
      | cons f front => exact before e (by simpa using last)
  · rintro ⟨r', ⟨front, gap, back, rfl, rfl, nonempty, gaps, before, behind⟩, rfl⟩
    refine ⟨c :: front, gap, back, rfl, rfl, nonempty, gaps, fun d last => ?_, behind⟩
    cases front with
    | nil =>
      obtain rfl : c = d := by simpa using last
      exact visible
    | cons e front => exact before d (by simpa using last)

/-- A separator with no other behind it is a run of its own. -/
theorem stands_cons_last (gap : sep c = true) (last : ∀ d, s.head? = some d → sep d = false) :
    r.Stands sep (c :: s) ↔ r = ⟨0, c.utf8Size⟩ ∨ ∃ r' : Run, r'.Stands sep s ∧ r = r'.shift c := by
  constructor
  · rintro ⟨front, gap', back, eq, rfl, nonempty, gaps, before, behind⟩
    cases front with
    | nil =>
      obtain ⟨d, gap', rfl⟩ := List.exists_cons_of_ne_nil nonempty
      obtain ⟨rfl, rfl⟩ := List.cons.inj eq
      cases gap' with
      | nil => exact .inl (by simp)
      | cons e gap' =>
        have more := gaps e (by simp)
        rw [last e (by simp)] at more
        cases more
    | cons d front =>
      obtain ⟨rfl, rfl⟩ := List.cons.inj eq
      refine .inr ⟨_, ⟨front, gap', back, rfl, rfl, nonempty, gaps, fun e end' => ?_, behind⟩, rfl⟩
      cases front with
      | nil => cases end'
      | cons f front => exact before e (by simpa using end')
  · rintro (rfl | ⟨r', stands, rfl⟩)
    · exact ⟨[], [c], s, rfl, by simp, by simp, by simpa using gap, nofun, last⟩
    · exact stands_shift stands (stands.start_pos last)

/-- A separator in front of another one belongs to the same run. -/
theorem stands_cons_more {d : Char} {t : List Char} (gap : sep c = true) (more : sep d = true) :
    r.Stands sep (c :: d :: t) ↔ ∃ r' : Run, r'.Stands sep (d :: t) ∧ r = r'.grow c := by
  constructor
  · rintro ⟨front, gap', back, eq, rfl, nonempty, gaps, before, behind⟩
    cases front with
    | nil =>
      obtain ⟨e, gap', rfl⟩ := List.exists_cons_of_ne_nil nonempty
      obtain ⟨rfl, rest⟩ := List.cons.inj eq
      have inside : gap' ≠ [] := by
        rintro rfl
        have other := behind d (congrArg List.head? rest).symm
        rw [more] at other
        cases other
      have gaps' : ∀ e ∈ gap', sep e = true := fun e mem => gaps e (List.mem_cons_of_mem _ mem)
      exact ⟨_, ⟨[], gap', back, rest, rfl, inside, gaps', nofun, behind⟩, by simp [Run.grow]⟩
    | cons e front =>
      obtain ⟨rfl, rest⟩ := List.cons.inj eq
      cases front with
      | nil =>
        have single := before c (by simp)
        rw [gap] at single
        cases single
      | cons f front =>
        have start : byteLength (f :: front) ≠ 0 :=
          Nat.ne_of_gt (byteLength_pos_of_ne_nil (by simp))
        refine ⟨_, ⟨f :: front, gap', back, rest, rfl, nonempty, gaps, fun g last =>
          before g (by simpa using last), behind⟩, ?_⟩
        simp only [Run.grow, if_neg start]
        rfl
  · rintro ⟨r', stands, rfl⟩
    by_cases start : r'.start = 0
    · obtain ⟨front, gap', back, eq, rfl, nonempty, gaps, -, behind⟩ := stands
      cases front with
      | nil =>
        refine ⟨[], c :: gap', back, by simpa using eq, by simp [Run.grow], by simp, ?_, nofun,
          behind⟩
        exact List.forall_mem_cons.mpr ⟨gap, gaps⟩
      | cons e front =>
        exact absurd start (Nat.ne_of_gt (byteLength_pos_of_ne_nil (by simp)))
    · have moved : r'.grow c = r'.shift c := by simp [Run.grow, Run.shift, start]
      rw [moved]
      exact stands_shift stands (Nat.pos_of_ne_zero start)

end stands

/-- By induction along the text; the cases are those of the first two characters. -/
theorem mem_runs {sep : Char → Bool} {s : List Char} {r : Run} :
    r ∈ runs sep s ↔ r.Stands sep s := by
  fun_induction runs sep s generalizing r with
  | case1 => exact ⟨nofun, fun stands => absurd stands not_stands_nil⟩
  | case2 c s gap more ih =>
    obtain ⟨d, t, rfl⟩ : ∃ d t, s = d :: t := by
      cases s with
      | nil => simp at more
      | cons d t => exact ⟨d, t, rfl⟩
    rw [stands_cons_more gap (by simpa using more)]
    simp only [List.mem_map, ih, eq_comm]
  | case3 c s gap last ih =>
    rw [stands_cons_last gap fun d first => by simpa [first] using last]
    simp only [List.mem_cons, List.mem_map, ih, eq_comm]
  | case4 c s visible ih =>
    rw [stands_cons_char (by simpa using visible)]
    simp only [List.mem_map, ih, eq_comm]

/-- Between two runs there is at least one character. -/
theorem pairwise_runs (sep : Char → Bool) (s : List Char) :
    (runs sep s).Pairwise fun r r' => r.stop < r'.start := by
  fun_induction runs sep s with
  | case1 => exact .nil
  | case2 c s gap more ih =>
    rw [List.pairwise_map]
    refine ih.imp fun {r r'} apart => ?_
    have later : r'.start ≠ 0 := by omega
    simp only [Run.grow, if_neg later]
    omega
  | case3 c s gap last ih =>
    refine .cons (fun r' mem => ?_) ?_
    · obtain ⟨r, within, rfl⟩ := List.mem_map.mp mem
      have start := (mem_runs.mp within).start_pos fun d first => by simpa [first] using last
      simp only [Run.shift]
      omega
    · rw [List.pairwise_map]
      exact ih.imp fun apart => Nat.add_lt_add_left apart _
  | case4 c s visible ih =>
    rw [List.pairwise_map]
    exact ih.imp fun apart => Nat.add_lt_add_left apart _

theorem stops_shift (c : Char) (rs : List Run) :
    (rs.map (Run.shift c)).map Run.stop = (rs.map Run.stop).map (c.utf8Size + ·) := by
  simp only [List.map_map]
  rfl

theorem stops_grow (c : Char) (rs : List Run) :
    (rs.map (Run.grow c)).map Run.stop = (rs.map Run.stop).map (c.utf8Size + ·) := by
  simp only [List.map_map]
  rfl

/-! ### Columns start where runs end -/

section columns
variable {sep : Char → Bool} {s t : List Char}

theorem nextColumn?_char {c : Char} (visible : sep c = false) (s : List Char) :
    nextColumn? sep (c :: s) = nextColumn? sep s := by
  simp [nextColumn?, visible]

theorem nextColumn?_gap {c : Char} (gap : sep c = true) (s : List Char) :
    nextColumn? sep (c :: s) = some (s.dropWhile sep) := by
  simp [nextColumn?, gap]

/-- The next column is what is left behind the first run. -/
theorem nextColumn?_eq_some (next : nextColumn? sep s = some t) :
    ∃ w, w ≠ [] ∧ s = w ++ t ∧ ∀ c, t.head? = some c → sep c = false := by
  induction s with
  | nil => cases next
  | cons c s ih =>
    cases gap : sep c with
    | true =>
      rw [nextColumn?_gap gap] at next
      obtain rfl := Option.some.inj next
      exact ⟨c :: s.takeWhile sep, by simp, by simp, fun d => head?_dropWhile⟩
    | false =>
      rw [nextColumn?_char gap] at next
      obtain ⟨w, -, rfl, first⟩ := ih next
      exact ⟨c :: w, by simp, rfl, first⟩

/-- A column that is found is what is left behind as many runs. -/
theorem fromColumn?_eq_some {col : Nat} (found : fromColumn? sep col s = some t) :
    ∃ w, s = w ++ t ∧ (col = 0 → w = []) ∧
      (0 < col → w ≠ [] ∧ ∀ c, t.head? = some c → sep c = false) := by
  induction col generalizing s with
  | zero =>
    obtain rfl := Option.some.inj found
    exact ⟨[], rfl, fun _ => rfl, nofun⟩
  | succ col ih =>
    rw [fromColumn?_succ] at found
    obtain ⟨u, next, later⟩ := Option.bind_eq_some_iff.mp found
    obtain ⟨w, nonempty, rfl, first⟩ := nextColumn?_eq_some next
    obtain ⟨w', rfl, none, some⟩ := ih later
    refine ⟨w ++ w', by simp, nofun, fun _ => ⟨by simp [nonempty], fun c head => ?_⟩⟩
    cases col with
    | zero =>
      obtain rfl := none rfl
      exact first c head
    | succ col => exact (some (Nat.succ_pos col)).2 c head

/-- The offset of a column is the length of what stands in front of it. -/
theorem columnOffset?_append {col : Nat} {w : List Char}
    (found : fromColumn? sep col (w ++ t) = some t) :
    columnOffset? sep col (w ++ t) = some (byteLength w) := by
  simp [columnOffset?, found]

theorem columnOffset?_eq_none {col : Nat} (missing : fromColumn? sep col s = none) :
    columnOffset? sep col s = none := by
  rw [columnOffset?, missing, Option.map_none]

theorem columnOffset?_eq_some {col i : Nat} (offset : columnOffset? sep col s = some i) :
    ∃ w t, s = w ++ t ∧ fromColumn? sep col (w ++ t) = some t ∧ byteLength w = i := by
  obtain ⟨t, found, eq⟩ := Option.map_eq_some_iff.mp offset
  obtain ⟨w, rfl, -⟩ := fromColumn?_eq_some found
  exact ⟨w, t, rfl, found, by simpa using eq⟩

/-- From a column on, further columns are looked up as in a text of their own. -/
theorem columnOffset?_add {a : Nat} {w : List Char} (found : fromColumn? sep a (w ++ t) = some t)
    (b : Nat) :
    columnOffset? sep (a + b) (w ++ t) = (columnOffset? sep b t).map (byteLength w + ·) := by
  unfold columnOffset?
  rw [fromColumn?_add, found, Option.bind_some]
  cases further : fromColumn? sep b t with
  | none => rfl
  | some u =>
    obtain ⟨w', rfl, -⟩ := fromColumn?_eq_some further
    simp only [Option.map_some, byteLength_append]
    congr 1
    omega

theorem runs_of_nextColumn?_none (next : nextColumn? sep s = none) : runs sep s = [] := by
  induction s with
  | nil => rfl
  | cons c s ih =>
    cases gap : sep c with
    | true =>
      rw [nextColumn?_gap gap] at next
      cases next
    | false =>
      rw [nextColumn?_char gap] at next
      simp [runs, gap, ih next]

/-- The next column starts where the first run ends, and all later runs stand behind it. By
induction on what is passed over. -/
theorem stops_of_nextColumn? {w : List Char} (next : nextColumn? sep (w ++ t) = some t) :
    (runs sep (w ++ t)).map Run.stop =
      byteLength w :: ((runs sep t).map Run.stop).map (byteLength w + ·) := by
  induction w with
  | nil =>
    obtain ⟨w, nonempty, eq, -⟩ := nextColumn?_eq_some next
    exact absurd (List.self_eq_append_left.mp eq) nonempty
  | cons c w ih =>
    rw [List.cons_append] at next ⊢
    cases gap : sep c with
    | false =>
      rw [nextColumn?_char gap] at next
      simp only [runs, gap, Bool.false_eq_true, if_false]
      rw [stops_shift, ih next]
      simp [Nat.add_assoc]
    | true =>
      rw [nextColumn?_gap gap] at next
      have left : (w ++ t).dropWhile sep = t := Option.some.inj next
      by_cases more : (w ++ t).head?.any sep = true
      · have next : nextColumn? sep (w ++ t) = some t := by
          cases split : w ++ t with
          | nil => simp [split] at more
          | cons d u =>
            have more : sep d = true := by simpa [split] using more
            rw [nextColumn?_gap more, ← left, split, List.dropWhile_cons_of_pos more]
        simp only [runs, gap, more, if_true]
        rw [stops_grow, ih next]
        simp [Nat.add_assoc]
      · have same : w ++ t = t := by
          refine (List.dropWhile_eq_self_iff.mpr fun inside gapped => more ?_).symm.trans left
          rw [List.head?_eq_getElem?, List.getElem?_eq_getElem inside]
          exact gapped
        obtain rfl : w = [] := List.append_left_eq_self.mp same
        rw [List.nil_append] at more ⊢
        simp only [runs, gap, more, if_true, if_false, Bool.false_eq_true, List.map_cons,
          stops_shift]
        simp

/-- Column 0 starts the text, and every other column starts where the run of its number ends. -/
theorem columnOffset?_eq (sep : Char → Bool) (col : Nat) (s : List Char) :
    columnOffset? sep col s = (0 :: (runs sep s).map Run.stop)[col]? := by
  induction col generalizing s with
  | zero => simp [columnOffset?]
  | succ col ih =>
    rw [List.getElem?_cons_succ]
    cases next : nextColumn? sep s with
    | none => simp [columnOffset?, next, runs_of_nextColumn?_none next]
    | some t =>
      obtain ⟨w, -, rfl, -⟩ := nextColumn?_eq_some next
      have found : fromColumn? sep 1 (w ++ t) = some t := by simp [next]
      rw [stops_of_nextColumn? next, Nat.add_comm col 1, columnOffset?_add found, ih,
        ← List.getElem?_map, List.map_cons, Nat.add_zero]

/-- Later columns start later. -/
theorem columnOffset?_lt {col col' i i' : Nat} (less : col < col')
    (offset : columnOffset? sep col s = some i) (offset' : columnOffset? sep col' s = some i') :
    i < i' := by
  obtain ⟨w, t, rfl, found, rfl⟩ := columnOffset?_eq_some offset
  rw [show col' = col + (col' - col) by omega, columnOffset?_add found] at offset'
  obtain ⟨j, further, rfl⟩ := Option.map_eq_some_iff.mp offset'
  obtain ⟨w', t', rfl, found', rfl⟩ := columnOffset?_eq_some further
  obtain ⟨w'', same, -, later⟩ := fromColumn?_eq_some found'
  obtain rfl := List.append_cancel_right same
  have passed := byteLength_pos_of_ne_nil (later (by omega)).1
  omega

end columns

/-- Whether these are the maximal runs of separators in a text, from left to right. -/
def AllRuns (sep : Char → Bool) (s : List Char) (rs : List Run) : Prop :=
  rs.Pairwise (·.stop < ·.start) ∧ ∀ r, r ∈ rs ↔ r.Stands sep s

/-- Whether column `col` may start at an offset: a character boundary of the text, where a token is
read up to the next run, and no separator stands unless the column is the first one. -/
def Starts (sep : Char → Bool) (s : List Char) (col i : Nat) : Prop :=
  ∃ before after, s = before ++ after ∧ byteLength before = i ∧
    tokenAt? sep i s = some (after.takeWhile (!sep ·)) ∧
    (0 < col → ∀ c, after.head? = some c → sep c = false)

/-! ### Slices -/

/-- A text is cut at a character boundary. -/
theorem dropBytes?_append (w t : List Char) : dropBytes? (byteLength w) (w ++ t) = some t := by
  induction w with
  | nil => cases t <;> rfl
  | cons c w ih =>
    obtain ⟨n, size⟩ := Nat.exists_eq_succ_of_ne_zero (Nat.ne_of_gt c.utf8Size_pos)
    rw [List.cons_append, byteLength_cons, size, Nat.succ_add, dropBytes?, if_pos (by omega), size]
    rw [show n + byteLength w + 1 - n.succ = byteLength w by omega]
    exact ih

theorem tokenAt?_append (sep : Char → Bool) (w t : List Char) :
    tokenAt? sep (byteLength w) (w ++ t) = some (token sep t) := by
  rw [tokenAt?, dropBytes?_append, Option.map_some]

theorem starts_of_columnOffset? {sep : Char → Bool} {s : List Char} {col i : Nat}
    (offset : columnOffset? sep col s = some i) : Starts sep s col i := by
  obtain ⟨before, after, rfl, found, rfl⟩ := columnOffset?_eq_some offset
  obtain ⟨w, same, -, later⟩ := fromColumn?_eq_some found
  exact ⟨before, after, rfl, rfl, tokenAt?_append sep before after, fun pos => (later pos).2⟩

/-- The token at the start of a text, and the rest. -/
theorem token_append (sep : Char → Bool) (s : List Char) :
    token sep s ++ s.drop (token sep s).length = s :=
  (List.prefix_iff_eq_append.mp (List.takeWhile_prefix _))

/-- Look up a column by moving an offset over a column and a run at a time; nothing at all where the
offset is no character boundary. -/
def moveOffset? (sep : Char → Bool) (s : List Char) : Nat → Nat → Option (Option Nat)
  | 0, i => some (some i)
  | col + 1, i => do
    let rest ← dropBytes? i s
    if !rest.any sep then return none
    let gap := i + byteLength (token sep rest)
    let rest ← dropBytes? gap s
    moveOffset? sep s col (gap + byteLength (rest.takeWhile sep))

/-- The next column stands behind a column and a run, if there is a separator at all. -/
theorem nextColumn?_eq (sep : Char → Bool) (s : List Char) :
    nextColumn? sep s =
      if s.any sep then some ((s.drop (token sep s).length).dropWhile sep) else none := by
  induction s with
  | nil => rfl
  | cons c s ih =>
    cases gap : sep c with
    | true => simp [nextColumn?_gap gap, token, gap]
    | false => simp [nextColumn?_char gap, token, gap, ih]

/-- Moving the offset finds the same places, wherever in the text it begins. By induction on the
columns that are left; a step passes over the token and the run at the start of the rest. -/
theorem moveOffset?_append (sep : Char → Bool) (col : Nat) (w t : List Char) :
    moveOffset? sep (w ++ t) col (byteLength w) =
      some ((columnOffset? sep col t).map (byteLength w + ·)) := by
  induction col generalizing w t with
  | zero => simp [moveOffset?, columnOffset?]
  | succ col ih =>
    have next := nextColumn?_eq sep t
    rw [moveOffset?, dropBytes?_append]
    dsimp only [Option.bind_eq_bind, Option.bind_some]
    cases gaps : t.any sep with
    | false =>
      rw [gaps, if_neg Bool.false_ne_true] at next
      rw [columnOffset?_eq_none (by rw [fromColumn?_succ, next, Option.bind_none])]
      rfl
    | true =>
      rw [gaps, if_pos rfl] at next
      generalize behind : t.drop (token sep t).length = rest at next
      have whole : token sep t ++ rest = t := by rw [← behind, token_append]
      have parts : rest.takeWhile sep ++ rest.dropWhile sep = rest :=
        List.takeWhile_append_dropWhile
      generalize token sep t = name at whole
      generalize run : rest.takeWhile sep = gap at parts
      generalize rest.dropWhile sep = later at next parts
      subst parts whole
      have cut := dropBytes?_append (w ++ name) (gap ++ later)
      have moved := ih (w ++ name ++ gap) later
      have onward : columnOffset? sep (1 + col) (name ++ gap ++ later) =
          (columnOffset? sep col later).map (byteLength (name ++ gap) + ·) :=
        columnOffset?_add (by simp [next]) col
      simp only [List.append_assoc, byteLength_append, Nat.add_comm 1] at cut moved onward ⊢
      rw [cut, onward, Option.bind_some, run, Nat.add_assoc, moved]
      simp [Function.comp_def, Nat.add_assoc]

end DebugBridge.Text

namespace DebugBridge

open Text

/-- Read a line of a listing by byte offsets; nothing where a cut is no character boundary. -/
def Listing.Line.slice? (line : List Char) : Option Listing.Line :=
  if line.isEmpty then some .blank
  else if Listing.isChatter line then some (.chatter (String.ofList line))
  else do
    let serial ← tokenAt? isGap 0 line
    if serial.isEmpty then return .withoutSerial (String.ofList line)
    match columnOffset? isGap 1 line with
    | none => return .withoutColumns
    | some stateOffset =>
      let state ← tokenAt? isGap stateOffset line
      if state.isEmpty then return .withoutState (String.ofList line)
      let properties ← dropBytes? (stateOffset + byteLength state) line
      return .entry
        { serial := String.ofList serial, state := String.ofList state,
          model := Listing.model? properties }

/-- Read a line of a routing table by byte offsets; nothing where a cut is no character boundary. -/
def Route.Line.slice? (line : List Char) : Option Route.Line :=
  match columnOffset? isGap Route.interfaceColumn line with
  | none => return .short
  | some interfaceOffset => do
    let fromInterface ← dropBytes? interfaceOffset line
    match columnOffset? isGap Route.addressDistance fromInterface with
    | none => return .short
    | some distance =>
      let interface ← tokenAt? isGap interfaceOffset line
      let address ← tokenAt? isGap (interfaceOffset + distance) line
      if !"wlan".toList.isPrefixOf interface then
        return .ignored (String.ofList address) (String.ofList interface)
      if address.isEmpty then return .withoutAddress
      return .found (String.ofList address)

theorem Listing.Line.slice?_eq (line : List Char) :
    Listing.Line.slice? line = some (Listing.Line.read line) := by
  have first : tokenAt? isGap 0 line = some (token isGap line) := tokenAt?_append isGap [] line
  unfold Listing.Line.slice? Listing.Line.read
  split
  · rfl
  · split
    · rfl
    · rw [first]
      dsimp only [Option.bind_eq_bind, Option.bind_some]
      split
      · rfl
      · cases found : fromColumn? isGap 1 line with
        | none => rw [columnOffset?_eq_none found]; rfl
        | some rest =>
          obtain ⟨w, rfl, -⟩ := fromColumn?_eq_some found
          have behind := dropBytes?_append (w ++ token isGap rest)
            (rest.drop (token isGap rest).length)
          rw [List.append_assoc, token_append, byteLength_append] at behind
          rw [columnOffset?_append found]
          dsimp only
          rw [tokenAt?_append]
          dsimp only [Option.bind_some]
          rw [behind]
          split <;> rfl

theorem Route.Line.slice?_eq (line : List Char) :
    Route.Line.slice? line = some (Route.Line.read line) := by
  unfold Route.Line.slice? Route.Line.read
  cases found : fromColumn? isGap Route.interfaceColumn line with
  | none => rw [columnOffset?_eq_none found]; rfl
  | some fromInterface =>
    obtain ⟨w, rfl, -⟩ := fromColumn?_eq_some found
    rw [columnOffset?_append found]
    dsimp only
    rw [dropBytes?_append, tokenAt?_append]
    dsimp only [Option.bind_eq_bind, Option.bind_some]
    cases further : fromColumn? isGap Route.addressDistance fromInterface with
    | none => rw [columnOffset?_eq_none further]; rfl
    | some fromAddress =>
      obtain ⟨w', rfl, -⟩ := fromColumn?_eq_some further
      rw [columnOffset?_append further]
      have address : tokenAt? isGap (byteLength w + byteLength w') (w ++ (w' ++ fromAddress)) =
          some (token isGap fromAddress) := by
        rw [← byteLength_append, ← List.append_assoc]
        exact tokenAt?_append isGap (w ++ w') fromAddress
      dsimp only
      rw [address]
      dsimp only [Option.bind_some]
      generalize "wlan".toList.isPrefixOf (token isGap (w' ++ fromAddress)) = wireless
      cases wireless with
      | false => rfl
      | true =>
        generalize (token isGap fromAddress).isEmpty = empty
        cases empty <;> rfl

/-- Columns are found where the runs of separators say. Moving an offset over the text never cuts a
character and gives column 0 the start of the text and every other column the end of the run of its
number; offsets grow with the columns, and a text that is cut at one is looked up as before. So both
tables can be read by byte offsets. -/
theorem columns_located :
    (∀ (sep : Char → Bool) (s : List Char),
      AllRuns sep s (runs sep s) ∧
      (∀ col, columnOffset? sep col s = (0 :: (runs sep s).map Run.stop)[col]?) ∧
      (∀ col, moveOffset? sep s col 0 = some (columnOffset? sep col s)) ∧
      (∀ col i, columnOffset? sep col s = some i → Starts sep s col i) ∧
      (∀ col col' i i', col < col' → columnOffset? sep col s = some i →
        columnOffset? sep col' s = some i' → i < i') ∧
      (∀ a b, columnOffset? sep a s = none → columnOffset? sep (a + b) s = none) ∧
      (∀ a b i, columnOffset? sep a s = some i → ∃ rest, dropBytes? i s = some rest ∧
        columnOffset? sep (a + b) s = (columnOffset? sep b rest).map (i + ·))) ∧
    ∀ line, Listing.Line.slice? line = some (Listing.Line.read line) ∧
      Route.Line.slice? line = some (Route.Line.read line) := by
  refine ⟨fun sep s => ⟨⟨pairwise_runs sep s, fun r => mem_runs⟩,
    fun col => columnOffset?_eq sep col s, fun col => ?moved,
    fun col i => starts_of_columnOffset?, fun col col' i i' => columnOffset?_lt,
    fun a b missing => ?missing, fun a b i offset => ?onward⟩,
    fun line => ⟨Listing.Line.slice?_eq line, Route.Line.slice?_eq line⟩⟩
  case moved => simpa using moveOffset?_append sep col [] s
  case missing =>
    rw [columnOffset?_eq] at missing ⊢
    rw [List.getElem?_eq_none_iff] at missing ⊢
    omega
  case onward =>
    obtain ⟨w, t, rfl, found, rfl⟩ := columnOffset?_eq_some offset
    exact ⟨t, dropBytes?_append w t, columnOffset?_add found b⟩

/-- A leading run, one of two-byte separators between the columns and one at the end. -/
theorem columns_located_wide :
    runs (· == '·') "··ä··b·".toList = [⟨0, 4⟩, ⟨6, 10⟩, ⟨11, 13⟩] ∧
      columnOffset? (· == '·') 2 "··ä··b·".toList = some 10 ∧
      columnOffset? (· == '·') 3 "··ä··b·".toList = some 13 ∧
      Starts (· == '·') "··ä··b·".toList 2 10 ∧ (10 < 13) ∧
      columnOffset? (· == '·') 4 "··ä··b·".toList = none ∧
      columnOffset? (· == '·') (4 + 1) "··ä··b·".toList = none := by
  have runs_eq : runs (· == '·') "··ä··b·".toList = [⟨0, 4⟩, ⟨6, 10⟩, ⟨11, 13⟩] := by decide
  obtain ⟨-, offsets, -, starts, increasing, missing, -⟩ :=
    columns_located.1 (· == '·') "··ä··b·".toList
  rw [runs_eq] at offsets
  have second := offsets 2
  have third := offsets 3
  have fourth := offsets 4
  exact ⟨runs_eq, second, third, starts 2 10 second, increasing 2 3 10 13 (by decide) second third,
    fourth, missing 4 1 fourth⟩

end DebugBridge
