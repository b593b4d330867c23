import DebugBridge.Process.Rendering
import Mathlib.Data.List.Basic
import Mathlib.Order.Bounds.Defs

/-!
# How much of a command is shown

A rendering shows the longest beginning of a command in which every argument has room behind the
ones before it. The room is measured so that an ellipsis always fits behind what was shown, so it
stands there exactly if something was left out, unless the capacity holds no ellipsis at all.
-/

namespace DebugBridge.Rendering

/-- Arguments in brackets, with a comma and a blank between them. -/
def shown (arguments : List String) : String :=
  ", ".intercalate (arguments.map fun argument => "[" ++ argument ++ "]")

def HasRoom (capacity : Nat) (before : List String) (argument : String) : Prop :=
  (shown before).utf8ByteSize + argument.utf8ByteSize + 8 < capacity

/-- So many of the arguments fit: each of them has room behind the ones before it. -/
def Fit (argv : List String) (capacity k : Nat) : Prop :=
  k ≤ argv.length ∧
    ∀ (i : Nat) (h : i < argv.length), i < k → HasRoom capacity (argv.take i) argv[i]

instance (capacity : Nat) (before : List String) (argument : String) :
    Decidable (HasRoom capacity before argument) := Nat.decLt _ _

instance (argv : List String) (capacity k : Nat) : Decidable (Fit argv capacity k) :=
  @instDecidableAnd _ _ (Nat.decLe _ _) (Nat.decidableBallLT _ _)

/-! ### What is shown -/

@[simp] theorem shown_nil : shown [] = "" := rfl

/-- One more argument is shown behind the others. -/
theorem shown_concat (arguments : List String) (argument : String) :
    shown (arguments ++ [argument]) = shown arguments ++ item arguments.isEmpty argument := by
  cases arguments with
  | nil => simp [shown, item]
  | cons first rest =>
    unfold shown
    rw [List.map_append, String.intercalate_append_of_ne_nil (by simp) (by simp), item,
      String.append_assoc]
    rfl

theorem size_item_le (first : Bool) (argument : String) :
    (item first argument).utf8ByteSize ≤ argument.utf8ByteSize + 4 := by
  have brackets : "[".utf8ByteSize = 1 ∧ "]".utf8ByteSize = 1 ∧ ", ".utf8ByteSize = 2 := by decide
  obtain ⟨opening, closing, separator⟩ := brackets
  cases first <;>
    simp only [item, String.utf8ByteSize_append, opening, closing, separator, if_true, if_false,
      Bool.false_eq_true, String.utf8ByteSize_empty] <;> omega

/-- What is shown is empty or ends in a bracket. -/
theorem not_ellipsis_shown (arguments : List String) :
    ¬ "...".toList <:+ (shown arguments).toList := by
  rcases List.eq_nil_or_concat arguments with rfl | ⟨before, last, rfl⟩
  · decide
  · have closing : "]".toList = [']'] := rfl
    rw [List.concat_eq_append, shown_concat, item, ← String.append_assoc, String.toList_append,
      closing, List.suffix_concat_iff]
    rintro (nothing | ⟨front, same, -⟩)
    · cases nothing
    · have last := congrArg List.getLast? same
      simp at last

/-! ### What fits -/

section fit
variable {argv : List String} {capacity k : Nat}

theorem fit_zero : Fit argv capacity 0 := ⟨Nat.zero_le _, by simp⟩

theorem Fit.mono {capacity' : Nat} (fit : Fit argv capacity k) (larger : capacity ≤ capacity') :
    Fit argv capacity' k :=
  ⟨fit.1, fun i h before => Nat.lt_of_lt_of_le (fit.2 i h before) larger⟩

/-- Behind arguments that fit there is room for an ellipsis. -/
theorem Fit.size_lt (fit : Fit argv capacity k) (some : 0 < k) :
    (shown (argv.take k)).utf8ByteSize + 4 < capacity := by
  obtain ⟨k, rfl⟩ := Nat.exists_eq_succ_of_ne_zero (Nat.ne_of_gt some)
  have inside : k < argv.length := fit.1
  have room := fit.2 k inside (Nat.lt_succ_self k)
  have size := size_item_le (argv.take k).isEmpty argv[k]
  unfold HasRoom at room
  rw [← List.take_append_getElem inside, shown_concat, String.utf8ByteSize_append]
  omega

/-- An ellipsis has room behind arguments that fit exactly if it has room by itself. -/
theorem Fit.spare (fit : Fit argv capacity k) :
    (shown (argv.take k)).utf8ByteSize + 3 < capacity ↔ 4 ≤ capacity := by
  rcases Nat.eq_zero_or_pos k with rfl | some
  · rw [List.take_zero, shown_nil, String.utf8ByteSize_empty]
    omega
  · have size := fit.size_lt some
    omega

end fit

section next
variable {argv before rest : List String} {argument : String} {capacity : Nat}
  (whole : before ++ argument :: rest = argv)
include whole

/-- The next argument fits behind others that fit, if it has room. -/
theorem Fit.concat (fit : Fit argv capacity before.length)
    (room : HasRoom capacity before argument) : Fit argv capacity (before.length + 1) := by
  refine ⟨by simp [← whole], fun i h earlier => ?_⟩
  rcases Nat.lt_succ_iff_lt_or_eq.mp earlier with earlier | rfl
  · exact fit.2 i h earlier
  · simpa [← whole] using room

/-- No more than the arguments before the next one fit, if it has no room. -/
theorem Fit.le_of_full {k : Nat} (fit : Fit argv capacity k)
    (full : ¬ HasRoom capacity before argument) : k ≤ before.length := by
  refine Nat.le_of_not_lt fun beyond => full ?_
  have fits := fit.2 before.length (by simp [← whole]) beyond
  simpa [← whole] using fits

end next

/-! ### The loop -/

/-- What is written behind arguments that fit are all further ones that fit, and then an ellipsis if
one was left out. -/
theorem fromByte_fits (argv : List String) (capacity : Nat) (rest done : List String)
    (whole : done ++ rest = argv) (fit : Fit argv capacity done.length) :
    ∃ k, IsGreatest {k | Fit argv capacity k} k ∧
      shown done ++ fromByte capacity (shown done).utf8ByteSize done.isEmpty rest =
        shown (argv.take k) ++
          if k < argv.length ∧ (shown (argv.take k)).utf8ByteSize + 3 < capacity then "..."
          else "" := by
  induction rest generalizing done with
  | nil =>
    obtain rfl : done = argv := by simpa using whole
    refine ⟨done.length, ⟨fit, fun j further => further.1⟩, ?_⟩
    simp [fromByte]
  | cons argument rest ih =>
    by_cases room : HasRoom capacity done argument
    · have fit' : Fit argv capacity (done ++ [argument]).length := by
        simpa using fit.concat whole room
      obtain ⟨k, greatest, written⟩ := ih (done ++ [argument]) (by simpa using whole) fit'
      refine ⟨k, greatest, ?_⟩
      have more : (done ++ [argument]).isEmpty = false := by simp
      rw [← written, shown_concat, String.utf8ByteSize_append, more, String.append_assoc, fromByte,
        if_pos (show _ + _ + reserved < capacity from room)]
    · refine ⟨done.length, ⟨fit, fun j further => Fit.le_of_full whole further room⟩, ?_⟩
      have inside : done.length < argv.length := by simp [← whole]
      have before : argv.take done.length = done := by simp [← whole]
      rw [before, fromByte, if_neg (show ¬ _ + _ + reserved < capacity from room)]
      simp only [inside, true_and]
      rfl

/-! ### The rendering -/

/-- A rendering shows the longest beginning of the command that fits, which does not get shorter in
a larger capacity, and then an ellipsis exactly if something was left out and the capacity holds
one. It stays below its capacity, and only with an ellipsis behind the arguments it ends in one. -/
theorem render_greatest (argv : List String) (capacity : Nat) :
    ∃ k, IsGreatest {k | Fit argv capacity k} k ∧
      render argv capacity =
        shown (argv.take k) ++ (if k < argv.length ∧ 4 ≤ capacity then "..." else "") ∧
      (∀ capacity' k', capacity ≤ capacity' → IsGreatest {k | Fit argv capacity' k} k' → k ≤ k') ∧
      (0 < capacity → (render argv capacity).utf8ByteSize < capacity) ∧
      (capacity < 4 → render argv capacity = "") ∧
      (4 ≤ capacity → ("...".toList <:+ (render argv capacity).toList ↔ k < argv.length)) := by
  obtain ⟨k, greatest, written⟩ := fromByte_fits argv capacity argv [] rfl fit_zero
  have fit : Fit argv capacity k := greatest.1
  have rendered : render argv capacity =
      shown (argv.take k) ++ if k < argv.length ∧ 4 ≤ capacity then "..." else "" := by
    simpa [render, fit.spare] using written
  refine ⟨k, greatest, rendered, fun _ _ larger greatest' => greatest'.2 (fit.mono larger),
    fun some => ?_, fun small => ?_, fun large => ?_⟩
  · rw [rendered, String.utf8ByteSize_append]
    split
    · next cut => exact fit.spare.mpr cut.2
    · rcases Nat.eq_zero_or_pos k with rfl | shows
      · exact some
      · have size := fit.size_lt shows
        rw [String.utf8ByteSize_empty]
        omega
  · have none : k = 0 := by
      by_contra shows
      have size := fit.size_lt (Nat.pos_of_ne_zero shows)
      omega
    rw [rendered, none, if_neg (by omega)]
    rfl
  · rw [rendered]
    simp only [large, and_true]
    split
    · next cut => simp [cut]
    · next whole => simpa [whole] using not_ellipsis_shown _

/-- Dots of an argument do not count as an ellipsis, and a capacity of three holds nothing. -/
theorem render_greatest_dots :
    let argv := ["adb", "...", "/sdcard/a"]
    render argv 24 = "[adb], [...]..." ∧ (render argv 24).utf8ByteSize < 24 ∧ render argv 3 = "" ∧
      (∃ k, IsGreatest {k | Fit argv 24 k} k ∧ k < argv.length) ∧
      ¬ "...".toList <:+ (render (argv.take 2) 24).toList := by
  intro argv
  obtain ⟨k, greatest, -, -, below, -, cut⟩ := render_greatest argv 24
  obtain ⟨-, -, -, -, -, empty, -⟩ := render_greatest argv 3
  obtain ⟨k', greatest', -, -, -, -, whole⟩ := render_greatest (argv.take 2) 24
  have both : Fit (argv.take 2) 24 2 := by decide +kernel
  exact ⟨by decide, below (by decide), empty (by decide),
    ⟨k, greatest, (cut (by decide)).mp (by decide +kernel)⟩,
    fun ends => absurd ((whole (by decide)).mp ends) (Nat.not_lt.mpr (greatest'.2 both))⟩

end DebugBridge.Rendering
