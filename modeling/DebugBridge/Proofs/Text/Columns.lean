import DebugBridge.Text.Columns
import Mathlib.Data.List.Basic
import Mathlib.Data.List.TakeWhile

/-!
# All columns of a text

`columns` is the whole list of columns, cut at maximal runs of separators. Looking a column up by
passing over the ones before it finds the token at this place of the list, and nothing where the
list has ended.
-/

namespace DebugBridge.Text

variable {sep : Char → Bool}

/-- The columns of a text: a run of separators, however long, ends one column and begins the next.
A column has begun in front of everything and ends behind it. -/
def columns (sep : Char → Bool) : List Char → List (List Char)
  | [] => [[]]
  | c :: s =>
    if sep c then
      if s.head?.any sep then columns sep s else [] :: columns sep s
    else (columns sep s).modifyHead (c :: ·)

example : columns isGap "\t a  b ".toList = ["".toList, "a".toList, "b".toList, "".toList] := by
  decide

theorem columns_gap {c : Char} (gap : sep c = true) {s : List Char}
    (last : ∀ d, s.head? = some d → sep d = false) :
    columns sep (c :: s) = [] :: columns sep s := by
  rw [columns, if_pos gap, if_neg]
  cases first : s.head? with
  | none => simp
  | some d => simp [last d first]

theorem columns_char {c : Char} (visible : sep c = false) (s : List Char) :
    columns sep (c :: s) = (columns sep s).modifyHead (c :: ·) := by
  rw [columns, if_neg (by simp [visible])]

theorem columns_word {w : List Char} (word : ∀ c ∈ w, sep c = false) (s : List Char) :
    columns sep (w ++ s) = (columns sep s).modifyHead (w ++ ·) := by
  induction w with
  | nil => exact (congrFun List.modifyHead_id _).symm
  | cons c w ih =>
    obtain ⟨first, later⟩ := List.forall_mem_cons.mp word
    rw [List.cons_append, columns_char first, ih later, List.modifyHead_modifyHead]
    rfl

/-- A whole run of separators ends one column. -/
theorem columns_run {run : List Char} (nonempty : run ≠ []) (gap : ∀ c ∈ run, sep c = true)
    {s : List Char} (last : ∀ d, s.head? = some d → sep d = false) :
    columns sep (run ++ s) = [] :: columns sep s := by
  induction run with
  | nil => exact absurd rfl nonempty
  | cons c run ih =>
    obtain ⟨first, later⟩ := List.forall_mem_cons.mp gap
    cases run with
    | nil => exact columns_gap first last
    | cons d run =>
      have second : sep d = true := later d List.mem_cons_self
      rw [List.cons_append, columns, if_pos first, if_pos (by simp [second])]
      exact ih (by simp) later

/-- What is left without leading characters of a class does not begin with one. -/
theorem head?_dropWhile {p : Char → Bool} {s : List Char} {c : Char}
    (first : (s.dropWhile p).head? = some c) : p c = false := by
  have other := List.head?_dropWhile_not p s
  rwa [first] at other

/-- The first column is the token at the beginning; the others are those of what follows it. -/
theorem columns_eq (s : List Char) :
    columns sep s = token sep s ::
      match nextColumn? sep s with
      | none => []
      | some rest => columns sep rest := by
  have word : ∀ c ∈ token sep s, sep c = false := fun c mem => by
    simpa using List.mem_takeWhile_imp mem
  have split : columns sep s = columns sep (token sep s ++ s.dropWhile (!sep ·)) :=
    congrArg _ List.takeWhile_append_dropWhile.symm
  rw [split, columns_word word]
  unfold nextColumn?
  rcases behind : s.dropWhile (!sep ·) with - | ⟨c, gap⟩
  · simp [columns]
  · have first : sep c = true := by simpa using head?_dropWhile (congrArg List.head? behind)
    have run : (c :: gap).takeWhile sep ≠ [] := by simp [first]
    have cut := columns_run run (fun d mem => List.mem_takeWhile_imp mem)
      fun d => head?_dropWhile (s := c :: gap)
    rw [List.takeWhile_append_dropWhile] at cut
    simp [cut]

/-- Looking a column up finds the token at its place among the columns. -/
theorem getElem?_columns (sep : Char → Bool) (k : Nat) (s : List Char) :
    (columns sep s)[k]? = (fromColumn? sep k s).map (token sep) := by
  induction k generalizing s with
  | zero => simp [columns_eq s]
  | succ k ih =>
    rw [columns_eq s, List.getElem?_cons_succ, fromColumn?_succ]
    cases nextColumn? sep s with
    | none => rfl
    | some rest => exact ih rest

/-- Columns hold what the text holds, without the separators. -/
theorem mem_columns {s w : List Char} (column : w ∈ columns sep s) :
    ∀ c ∈ w, c ∈ s ∧ sep c = false := by
  fun_induction columns sep s generalizing w with
  | case1 => simp_all
  | case2 d s gap more ih =>
    intro c mem
    exact (ih column c mem).imp_left (List.mem_cons_of_mem d)
  | case3 d s gap last ih =>
    intro c mem
    rcases List.mem_cons.mp column with rfl | column
    · cases mem
    · exact (ih column c mem).imp_left (List.mem_cons_of_mem d)
  | case4 d s visible ih =>
    rw [columns_eq s] at column ih
    intro c mem
    rcases List.mem_cons.mp column with rfl | column
    · rcases List.mem_cons.mp mem with rfl | mem
      · simpa using visible
      · exact (ih List.mem_cons_self c mem).imp_left (List.mem_cons_of_mem d)
    · exact (ih (List.mem_cons_of_mem _ column) c mem).imp_left (List.mem_cons_of_mem d)

end DebugBridge.Text
