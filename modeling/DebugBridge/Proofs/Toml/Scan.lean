import DebugBridge.Toml.Scan

/-!
# Steps of a reader

What a reader does with the characters that are left follows from what its parts do, one after the
other: a part that takes its piece hands on what follows, and of two readers the second one is
tried on the same characters when the first fails.
-/

namespace DebugBridge.Toml.Scan

variable {α β : Type} {s t : List Char} {a : α}

/-- Characters of which a class holds only one are different. -/
theorem ne_of_class {p : Char → Bool} {c d : Char} (inside : p c = true) (outside : p d = false) :
    c ≠ d := by
  rintro rfl
  rw [inside] at outside
  cases outside

theorem peek_apply : peek s = some (s.head?, s) := rfl

theorem bind_some {p : Scan α} (first : p s = some (a, t)) (next : α → Scan β) :
    (p >>= next) s = next a t := by
  change (p s).bind _ = _
  rw [first]
  rfl

theorem bind_none {p : Scan α} (fails : p s = none) (next : α → Scan β) :
    (p >>= next) s = none := by
  change (p s).bind _ = _
  rw [fails]
  rfl

theorem get_bind (next : List Char → Scan β) : (get >>= next : Scan β) s = next s s := rfl

theorem orElse_none {p : Scan α} (fails : p s = none) (q : Scan α) : (p <|> q) s = q s := by
  change (p s <|> q s) = _
  rw [fails]
  rfl

theorem maybe_none {p : Scan α} (fails : p s = none) : maybe p s = some (none, s) := by
  change ((p s).bind _ <|> _) = _
  rw [fails]
  rfl

theorem many_none {p : Scan α} (fails : p s = none) : many p s = some ([], s) := by
  change manyWith p s.length s = _
  rcases s with - | ⟨c, s⟩
  · rfl
  · rw [List.length_cons, manyWith, bind_some (maybe_none fails)]
    rfl

theorem char_cons (c : Char) : char c (c :: s) = some ((), s) := if_pos rfl

theorem char_none {c : Char} (other : s.head? ≠ some c) : char c s = none := by
  rcases s with - | ⟨d, s⟩
  · rfl
  · exact if_neg fun same => other (by rw [same]; rfl)

theorem word_none {c d : Char} (other : d ≠ c) (w : List Char) : word (c :: w) (d :: s) = none := by
  simp [word, Ne.symm other]

theorem charsWhile_append {p : Char → Bool} {w : List Char} (inside : ∀ c ∈ w, p c = true)
    (outside : ∀ c, s.head? = some c → p c = false) : charsWhile p (w ++ s) = some (w, s) := by
  have taken : s.takeWhile p = [] := by
    rcases s with - | ⟨c, s⟩
    · rfl
    · simp [outside c rfl]
  have left : s.dropWhile p = s := by
    rcases s with - | ⟨c, s⟩
    · rfl
    · simp [outside c rfl]
  rw [charsWhile, List.takeWhile_append_of_pos inside, List.dropWhile_append_of_pos inside, taken,
    left, List.append_nil]

theorem someWhile_append {p : Char → Bool} {w : List Char} (some_ : w ≠ [])
    (inside : ∀ c ∈ w, p c = true) (outside : ∀ c, s.head? = some c → p c = false) :
    someWhile p (w ++ s) = some (w, s) := by
  have more : w.isEmpty = false := by simpa using some_
  rw [someWhile, bind_some (charsWhile_append inside outside), more]
  rfl

/-- The blanks in front are passed over. -/
theorem blanks_append {w : List Char} (blank : ∀ c ∈ w, isBlank c = true)
    (other : ∀ c, s.head? = some c → isBlank c = false) : blanks (w ++ s) = some ((), s) := by
  rw [blanks, bind_some (charsWhile_append blank other)]
  rfl

theorem blanks_visible {c : Char} (visible : isBlank c = false) :
    blanks (c :: s) = some ((), c :: s) :=
  blanks_append (w := []) (by simp) fun d first => by
    obtain rfl : c = d := by simpa using first
    exact visible

/-- Behind a value or a header, the end of the line may stand. -/
theorem trailing_newline : trailing ('\n' :: s) = some ((), s) := by
  have none : blanks ('\n' :: s) = some ((), '\n' :: s) := blanks_visible (by decide)
  have silent : comment ('\n' :: s) = Option.none := bind_none (char_none (by simp)) _
  rw [trailing, bind_some none, bind_some (maybe_none silent)]
  rfl

end DebugBridge.Toml.Scan
