import DebugBridge.Text.Lines
import Mathlib.Data.List.Basic
import Mathlib.Data.List.TakeWhile

/-!
# Lines that were written

Lines are written one after another, each with a line end of either kind, and the last one may go
without. Every one of them is read again, as it was or without a carriage return at its end. A text
that is cut only once is cut at the first of a character.
-/

namespace DebugBridge.Text

inductive LineEnd where
  | feed
  | returnFeed
  deriving DecidableEq, Repr

def LineEnd.chars : LineEnd → List Char
  | .feed => ['\n']
  | .returnFeed => ['\r', '\n']

/-- Lines one after another, each with its end; the last one has its end if the text is closed. -/
def written (closed : Bool) : List (List Char × LineEnd) → List Char
  | [] => []
  | [(line, ending)] => if closed then line ++ ending.chars else line
  | (line, ending) :: next :: rest => line ++ ending.chars ++ written closed (next :: rest)

section pieces
variable {cut : Char → Bool}

theorem pieces_eq_splitOnP (cut : Char → Bool) (s : List Char) : pieces cut s = s.splitOnP cut := by
  induction s with
  | nil => rfl
  | cons c s ih =>
    rw [List.splitOnP_cons_eq_if_modifyHead, ← ih]
    split
    · next ends => exact pieces_cons_cut ends s
    · next inside =>
      rcases cutRest : pieces cut s with - | ⟨part, rest⟩
      · exact absurd cutRest (pieces_ne_nil cut s)
      · unfold pieces at cutRest ⊢
        rw [List.foldr_cons, cutRest, if_neg inside]
        rfl

theorem pieces_of_uncut {s : List Char} (uncut : ∀ c ∈ s, cut c = false) : pieces cut s = [s] := by
  rw [pieces_eq_splitOnP]
  exact List.splitOnP_eq_singleton (by simpa using uncut)

theorem pieces_append (s : List Char) {d : Char} (h : cut d = true) (t : List Char) :
    pieces cut (s ++ d :: t) = pieces cut s ++ pieces cut t := by
  simp only [pieces_eq_splitOnP, List.splitOnP_append_cons s t h]

theorem pieces_append_cut {s : List Char} (uncut : ∀ c ∈ s, cut c = false) {d : Char}
    (h : cut d = true) (t : List Char) : pieces cut (s ++ d :: t) = s :: pieces cut t := by
  rw [pieces_append s h, pieces_of_uncut uncut]
  rfl

/-- Pieces hold no character of the class. -/
theorem uncut_of_mem_pieces {s part : List Char} (piece : part ∈ pieces cut s) :
    ∀ c ∈ part, cut c = false := by
  induction s generalizing part with
  | nil => simp_all
  | cons d s ih =>
    rw [pieces_eq_splitOnP, List.splitOnP_cons_eq_if_modifyHead, ← pieces_eq_splitOnP] at piece
    split at piece
    · rcases List.mem_cons.mp piece with rfl | piece
      · simp
      · exact ih piece
    · next inside =>
      rcases parts : pieces cut s with - | ⟨first, rest⟩
      · exact absurd parts (pieces_ne_nil cut s)
      · rw [parts] at piece ih
        rcases List.mem_cons.mp piece with rfl | piece
        · exact List.forall_mem_cons.mpr ⟨by simpa using inside, ih List.mem_cons_self⟩
        · exact ih (List.mem_cons_of_mem _ piece)

end pieces

section fresh
variable {s : List Char} {d : Char} (fresh : d ∉ s) (t : List Char)
include fresh

theorem takeWhile_fresh : (s ++ d :: t).takeWhile (· ≠ d) = s := by
  rw [List.takeWhile_append_of_pos fun c mem => by simpa using ne_of_mem_of_not_mem mem fresh]
  simp

theorem dropWhile_fresh : (s ++ d :: t).dropWhile (· ≠ d) = d :: t := by
  rw [List.dropWhile_append_of_pos fun c mem => by simpa using ne_of_mem_of_not_mem mem fresh]
  simp

end fresh

theorem dropReturn_concat (line : List Char) : dropReturn (line ++ ['\r']) = line := by
  simp [dropReturn]

/-- A line is read as it is, or without the carriage return at its end. -/
def ReadAs (line read : List Char) : Prop := read = line ∨ line = read ++ ['\r']

theorem readAs_dropReturn (line : List Char) : ReadAs line (dropReturn line) := by
  unfold dropReturn
  split
  · next last =>
    right
    have nonempty : line ≠ [] := by rintro rfl; simp at last
    have shape := List.dropLast_append_getLast nonempty
    rw [List.getLast?_eq_some_getLast nonempty] at last
    rw [← shape, Option.some.inj last]
    simp
  · exact .inl rfl

theorem mem_of_mem_dropReturn {line : List Char} {c : Char} (mem : c ∈ dropReturn line) :
    c ∈ line := by
  rcases readAs_dropReturn line with same | shape
  · rwa [same] at mem
  · rw [shape]
    exact List.mem_append_left _ mem

theorem uncut_of_feedless {line : List Char} (feedless : '\n' ∉ line) :
    ∀ c ∈ line, (c == '\n') = false :=
  fun c mem => by simpa using ne_of_mem_of_not_mem mem feedless

/-- What is cut off in front of a line feed is the line, with or without a carriage return. -/
theorem lines_append_ending {line : List Char} (feedless : '\n' ∉ line) (ending : LineEnd)
    (t : List Char) :
    ∃ read, lines (line ++ ending.chars ++ t) = read :: lines t ∧ ReadAs line read := by
  cases ending with
  | feed =>
    refine ⟨dropReturn line, ?_, readAs_dropReturn line⟩
    simp [lines, LineEnd.chars, pieces_append_cut (uncut_of_feedless feedless)]
  | returnFeed =>
    have feedless' : '\n' ∉ line ++ ['\r'] := by simpa using feedless
    have cut := pieces_append_cut (uncut_of_feedless feedless') (d := '\n') (by decide) t
    simp only [List.append_assoc, List.cons_append, List.nil_append] at cut
    refine ⟨line, ?_, .inl rfl⟩
    simp [lines, LineEnd.chars, cut, dropReturn_concat]

/-- Lines without line feeds are read again in their order; a closed text has an empty line at its
end. -/
theorem lines_written (closed : Bool) {ls : List (List Char × LineEnd)} (some : ls ≠ [])
    (feedless : ∀ l ∈ ls, '\n' ∉ l.1) :
    ∃ reads, lines (written closed ls) = reads ++ (if closed then [[]] else []) ∧
      List.Forall₂ (fun l read => ReadAs l.1 read) ls reads := by
  induction ls with
  | nil => exact absurd rfl some
  | cons l rest ih =>
    obtain ⟨line, ending⟩ := l
    have here := feedless (line, ending) List.mem_cons_self
    cases rest with
    | nil =>
      cases closed with
      | true =>
        obtain ⟨read, cut, readAs⟩ := lines_append_ending here ending []
        have last : lines [] = [[]] := rfl
        exact ⟨[read], by simpa [written, last] using cut, .cons readAs .nil⟩
      | false =>
        refine ⟨[dropReturn line], ?_, .cons (readAs_dropReturn line) .nil⟩
        simp [written, lines, pieces_of_uncut (uncut_of_feedless here)]
    | cons next rest =>
      obtain ⟨reads, later, readsAs⟩ :=
        ih (by simp) fun l mem => feedless l (List.mem_cons_of_mem _ mem)
      obtain ⟨read, cut, readAs⟩ :=
        lines_append_ending here ending (written closed (next :: rest))
      exact ⟨read :: reads, by rw [written, cut, later]; rfl, .cons readAs readsAs⟩

/-! ### Line feeds and carriage returns -/

/-- A text with a carriage return before each line feed. -/
def withReturns (s : List Char) : List Char :=
  s.flatMap fun c => if c = '\n' then ['\r', '\n'] else [c]

theorem withReturns_append (s t : List Char) :
    withReturns (s ++ t) = withReturns s ++ withReturns t :=
  List.flatMap_append

theorem withReturns_line {line : List Char} (feedless : '\n' ∉ line) : withReturns line = line := by
  induction line with
  | nil => rfl
  | cons c line ih =>
    have other : c ≠ '\n' := by
      rintro rfl
      exact feedless List.mem_cons_self
    rw [withReturns, List.flatMap_cons, if_neg other]
    exact congrArg (c :: ·) (ih fun mem => feedless (List.mem_cons_of_mem c mem))

/-- A line without carriage returns is read as it is. -/
theorem ReadAs.eq {line read : List Char} (readAs : ReadAs line read) (plain : '\r' ∉ line) :
    read = line := by
  rcases readAs with rfl | rfl
  · rfl
  · simp at plain

/-- Carriage returns before the line feeds of a text that has no others do not change its lines. -/
theorem lines_withReturns {s : List Char} (plain : '\r' ∉ s) : lines (withReturns s) = lines s := by
  induction length : s.length using Nat.strongRecOn generalizing s with
  | ind n ih =>
    by_cases feed : '\n' ∈ s
    · obtain ⟨line, rest, rfl, feedless⟩ := List.eq_append_cons_of_mem feed
      have first : '\r' ∉ line := fun mem => plain (List.mem_append_left _ mem)
      have later : '\r' ∉ rest := fun mem => plain (by simp [mem])
      have shorter : rest.length < n := by
        simp only [← length, List.length_append, List.length_cons]
        omega
      have shape : withReturns (line ++ '\n' :: rest) =
          line ++ LineEnd.returnFeed.chars ++ withReturns rest := by
        rw [withReturns_append, withReturns_line feedless, List.append_assoc]
        rfl
      obtain ⟨read, cut, readAs⟩ := lines_append_ending feedless .returnFeed (withReturns rest)
      obtain ⟨read', cut', readAs'⟩ := lines_append_ending feedless .feed rest
      rw [readAs'.eq first, List.append_assoc] at cut'
      rw [shape, cut, readAs.eq first, ih _ shorter later rfl]
      exact cut'.symm
    · rw [withReturns_line feed]

end DebugBridge.Text
