import DebugBridge.Proofs.Toml.Scan
import DebugBridge.Toml.Text
import DebugBridge.Toml.Writer
import Mathlib.Tactic.SplitIfs

/-!
# Texts between quotes

However a text is quoted when it is written, reading the quotes gives the text again. Between double
quotes every character stands for itself or is shown by an escape; between single quotes nothing has
to be escaped, or else the text is not written so. Where line ends are allowed, quotes may stand in
the text as long as no three of them follow each other.
-/

namespace DebugBridge.Toml

open Toml.Text
open Writer hiding text

@[simp] theorem prepend_some (c : Char) (t rest : List Char) :
    prepend c (some (t, rest)) = some (c :: t, rest) := rfl

/-! ### Escapes -/

def Shows (w : List Char) (c : Char) : Prop :=
  (∃ d, w = ['\\', d] ∧ escaped? d = some c) ∨
    ∃ a b d e, w = ['\\', 'u', a, b, d, e] ∧ scalar? [a, b, d, e] = some c

def upperDigit (n : Nat) : Char := (Nat.digitChar n).toUpper

theorem digitValue?_upperDigit :
    ∀ n < 16, DebugBridge.Text.digitValue? 16 (upperDigit n) = some n := by
  decide

/-- The four digits of a value of one byte. -/
theorem padded_digits {n : Nat} (byte : n < 256) :
    List.replicate (4 - ((DebugBridge.Text.hexDigits n).map Char.toUpper).length) '0' ++
        (DebugBridge.Text.hexDigits n).map Char.toUpper =
      ['0', '0', upperDigit (n / 16), upperDigit (n % 16)] := by
  unfold DebugBridge.Text.hexDigits
  by_cases one : n < 16
  · have high : n / 16 = 0 := by omega
    have low : n % 16 = n := by omega
    rw [Nat.toDigits_of_lt_base one, high, low]
    rfl
  · have high : n / 16 < 16 := by omega
    rw [Nat.toDigits_of_base_le (by decide) (by omega), Nat.toDigits_of_lt_base high]
    rfl

theorem scalar?_digits {c : Char} (byte : c.toNat < 256) :
    scalar? ['0', '0', upperDigit (c.toNat / 16), upperDigit (c.toNat % 16)] = some c := by
  have high := digitValue?_upperDigit (c.toNat / 16) (by omega)
  have low := digitValue?_upperDigit (c.toNat % 16) (by omega)
  have zero : DebugBridge.Text.digitValue? 16 '0' = some 0 := by decide
  have value : DebugBridge.Text.numberIn? 16
      ['0', '0', upperDigit (c.toNat / 16), upperDigit (c.toNat % 16)] = some c.toNat := by
    simp only [DebugBridge.Text.numberIn?, List.foldl_cons, List.foldl_nil, zero, high, low,
      Option.bind_some, Option.map_some, Option.some.injEq]
    omega
  have valid : c.toNat.isValidChar := c.valid
  rw [scalar?, value, Option.bind_some, if_pos valid, Char.ofNat_toNat]

theorem shows_escaped {c : Char} (control : c = '"' ∨ c = '\n' ∨ needsEscape c = true) :
    Shows (escaped c) c := by
  unfold escaped
  split_ifs with h h h h h h h
  · exact .inl ⟨'b', rfl, by rw [h]; rfl⟩
  · exact .inl ⟨'t', rfl, by rw [h]; rfl⟩
  · exact .inl ⟨'n', rfl, by rw [h]; rfl⟩
  · exact .inl ⟨'f', rfl, by rw [h]; rfl⟩
  · exact .inl ⟨'r', rfl, by rw [h]; rfl⟩
  · exact .inl ⟨'"', rfl, by rw [h]; rfl⟩
  · exact .inl ⟨'\\', rfl, by rw [h]; rfl⟩
  · have byte : c.toNat < 256 := by
      have : c.toNat < 0x20 ∨ c = '\x7f' := by simp_all [needsEscape, isControl]
      rcases this with low | rfl
      · omega
      · decide
    refine .inr ⟨'0', '0', upperDigit (c.toNat / 16), upperDigit (c.toNat % 16), ?_,
      scalar?_digits byte⟩
    dsimp only
    rw [List.append_assoc, padded_digits byte]
    rfl

theorem visible_of_not_isControl {c : Char} (newline : c ≠ '\n') (visible : isControl c = false) :
    (c = '\t' || (0x20 ≤ c.toNat && c.toNat ≤ 0x7e) || Scan.isWide c) = true := by
  by_cases tab : c = '\t'
  · simp [tab]
  · have ⟨low, deleted⟩ : ¬ c.toNat < 0x20 ∧ c ≠ '\x7f' := by
      simpa [isControl, tab, newline, not_or] using visible
    have : c.toNat ≠ 0x7f := fun value => deleted (by rw [← Char.ofNat_toNat c, value])
    simp only [Scan.isWide, tab, Bool.or_eq_true, Bool.and_eq_true, decide_eq_true_eq]
    omega

/-- A character that is written as it is between double quotes stands there for itself. -/
theorem isBasic_of_plain {c : Char} (quote : c ≠ '"') (newline : c ≠ '\n')
    (plain : needsEscape c = false) : isBasic c = true := by
  simp only [needsEscape, Bool.or_eq_false_iff, decide_eq_false_iff_not] at plain
  obtain ⟨⟨-, backslash⟩, visible⟩ := plain
  rw [isBasic, visible_of_not_isControl newline visible]
  simp [quote, backslash]

theorem isLiteral_of_plain {c : Char} (quote : c ≠ '\'') (newline : c ≠ '\n')
    (visible : isControl c = false) : isLiteral c = true := by
  rw [isLiteral, visible_of_not_isControl newline visible]
  simp [quote]

/-! ### Double quotes -/

/-- The reader takes plain characters as they are and escapes for the characters they show. -/
structure Unescapes (read : List Char → Option (List Char × List Char)) : Prop where
  plain : ∀ (c : Char) (s : List Char), isBasic c = true → read (c :: s) = prepend c (read s)
  shows : ∀ (w : List Char) (c : Char) (s : List Char), Shows w c →
    read (w ++ s) = prepend c (read s)

theorem not_special_of_isBasic {c : Char} (plain : isBasic c = true) :
    c ≠ '"' ∧ c ≠ '\\' ∧ c ≠ '\n' ∧ c ≠ '\r' := by
  refine ⟨?_, ?_, ?_, ?_⟩ <;> exact Scan.ne_of_class plain (by decide)

theorem ne_u_of_escaped? {d c : Char} (named : escaped? d = some c) : d ≠ 'u' ∧ d ≠ 'U' := by
  constructor <;> rintro rfl <;> cases named

theorem unescapes_basic : Unescapes basic where
  plain c s plain := by
    obtain ⟨quote, backslash, -, -⟩ := not_special_of_isBasic plain
    rw [basic.eq_def]
    split <;> simp_all
  shows w c s shown := by
    rcases shown with ⟨d, rfl, named⟩ | ⟨a, b, d, e, rfl, value⟩
    · obtain ⟨short, long⟩ := ne_u_of_escaped? named
      simp [basic, short, long, named]
    · simp [basic, value]

theorem unescapes_multilineBasic : Unescapes multilineBasic where
  plain c s plain := by
    obtain ⟨quote, backslash, newline, return_⟩ := not_special_of_isBasic plain
    rw [multilineBasic] <;> simp [quote, backslash, newline, return_, plain]
  shows w c s shown := by
    rcases shown with ⟨d, rfl, named⟩ | ⟨a, b, d, e, rfl, value⟩
    · obtain ⟨short, long⟩ := ne_u_of_escaped? named
      rw [List.cons_append, multilineBasic.eq_def]
      simp [short, long, named]
    · simp [multilineBasic, value]

theorem basic_basicBody (s rest : List Char) :
    basic (basicBody s ++ '"' :: rest) = some (s, rest) := by
  induction s with
  | nil => rfl
  | cons c s ih =>
    have cons : basicBody (c :: s) =
        (if c = '"' || c = '\n' || needsEscape c then escaped c else [c]) ++ basicBody s := rfl
    rw [cons, List.append_assoc]
    split
    · next special =>
      have shown : Shows (escaped c) c := shows_escaped (by simpa [or_assoc] using special)
      rw [unescapes_basic.shows _ c _ shown, ih, prepend_some]
    · next plain =>
      simp only [Bool.or_eq_true, decide_eq_true_eq, not_or, Bool.not_eq_true] at plain
      obtain ⟨⟨quote, newline⟩, plain⟩ := plain
      rw [List.singleton_append, unescapes_basic.plain c _ (isBasic_of_plain quote newline plain),
        ih, prepend_some]

/-! ### Three quotes -/

/-- The reader ends at three quotes, to which up to two quotes of the text may be joined; other
quotes and line ends stand for themselves. -/
structure Closes (q : Char) (read : List Char → Option (List Char × List Char)) : Prop where
  three : ∀ rest : List Char, rest.head? ≠ some q → read (q :: q :: q :: rest) = some ([], rest)
  four : ∀ rest : List Char, rest.head? ≠ some q →
    read (q :: q :: q :: q :: rest) = some ([q], rest)
  five : ∀ rest : List Char, read (q :: q :: q :: q :: q :: rest) = some ([q, q], rest)
  quote : ∀ s : List Char, ¬ [q, q] <+: s → read (q :: s) = prepend q (read s)
  newline : ∀ s : List Char, read ('\n' :: s) = prepend '\n' (read s)

theorem closes_multilineBasic : Closes '"' multilineBasic where
  three rest other := by rw [multilineBasic] <;> rintro s rfl <;> simp at other
  four rest other := by rw [multilineBasic]; rintro s rfl; simp at other
  five rest := by rw [multilineBasic]
  quote s single := by rw [multilineBasic] <;> rintro t rfl <;> simp at single
  newline s := by rw [multilineBasic]

theorem closes_multilineLiteral : Closes '\'' multilineLiteral where
  three rest other := by rw [multilineLiteral] <;> rintro s rfl <;> simp at other
  four rest other := by rw [multilineLiteral]; rintro s rfl; simp at other
  five rest := by rw [multilineLiteral]
  quote s single := by rw [multilineLiteral] <;> rintro t rfl <;> simp at single
  newline s := by rw [multilineLiteral]

/-- Nothing is written behind two quotes, and nothing else than a quote behind any, that begins with
a quote. -/
theorem multilineBasicBody_cons {run : Nat} {c : Char} (other : c = '"' → 2 ≤ run)
    (s : List Char) : ∃ d t, d ≠ '"' ∧ multilineBasicBody run (c :: s) = d :: t := by
  by_cases quote : c = '"'
  · have full : ¬ run < 2 := by have := other quote; omega
    exact ⟨'\\', '"' :: multilineBasicBody 0 s, by decide, by
      rw [quote, multilineBasicBody, if_pos rfl, if_neg full]; rfl⟩
  · rw [multilineBasicBody, if_neg quote]
    split
    · next special =>
      rcases shows_escaped (.inr (.inr special)) with ⟨d, shown, -⟩ | ⟨a, b, d, e, shown, -⟩ <;>
        rw [shown] <;> exact ⟨'\\', _, by decide, rfl⟩
    · exact ⟨c, _, quote, rfl⟩

/-- What is written behind a quote begins with two quotes only at the end of the text. -/
theorem end_of_prefix {run : Nat} {s rest : List Char} (behind : 1 ≤ run)
    (pair : ['"', '"'] <+: multilineBasicBody run s ++ '"' :: '"' :: '"' :: rest) :
    s = [] ∨ run < 2 ∧ s = ['"'] := by
  rcases s with - | ⟨c, s⟩
  · exact .inl rfl
  · by_cases other : c = '"' → 2 ≤ run
    · obtain ⟨d, t, quote, body⟩ := multilineBasicBody_cons other s
      simp [body, Ne.symm quote] at pair
    · obtain ⟨rfl, room⟩ : c = '"' ∧ run < 2 := by simpa using other
      rcases s with - | ⟨c, s⟩
      · exact .inr ⟨room, rfl⟩
      · obtain ⟨d, t, quote, body⟩ : ∃ d t, d ≠ '"' ∧
            multilineBasicBody (run + 1) (c :: s) = d :: t :=
          multilineBasicBody_cons (fun _ => by omega) s
        rw [multilineBasicBody, if_pos rfl, if_pos room, body] at pair
        simp [Ne.symm quote] at pair

theorem multilineBasic_body {rest : List Char} (other : rest.head? ≠ some '"') (s : List Char)
    (run : Nat) :
    multilineBasic (multilineBasicBody run s ++ '"' :: '"' :: '"' :: rest) = some (s, rest) := by
  have ends := closes_multilineBasic
  -- By induction on the text, for any number of quotes in front of it.
  induction s generalizing run with
  | nil => exact ends.three rest other
  | cons c s ih =>
    by_cases quote : c = '"'
    · subst quote
      by_cases room : run < 2
      · -- This quote joins the closing ones exactly if nothing but quotes is left of the text.
        rw [multilineBasicBody, if_pos rfl, if_pos room, List.cons_append]
        by_cases pair : ['"', '"'] <+: multilineBasicBody (run + 1) s ++ '"' :: '"' :: '"' :: rest
        · rcases end_of_prefix (by omega) pair with rfl | ⟨more, rfl⟩
          · exact ends.four rest other
          · rw [multilineBasicBody, if_pos rfl, if_pos more]
            exact ends.five rest
        · rw [ends.quote _ pair, ih, prepend_some]
      · have shown : Shows (escaped '"') '"' := shows_escaped (.inl rfl)
        rw [multilineBasicBody, if_pos rfl, if_neg room, List.append_assoc,
          unescapes_multilineBasic.shows _ _ _ shown, ih, prepend_some]
    · rw [multilineBasicBody, if_neg quote, List.append_assoc]
      split
      · next special =>
        have shown : Shows (escaped c) c := shows_escaped (.inr (.inr special))
        rw [unescapes_multilineBasic.shows _ _ _ shown, ih, prepend_some]
      · next plain =>
        rw [List.singleton_append]
        by_cases newline : c = '\n'
        · rw [newline, ends.newline, ih, prepend_some]
        · have basic := isBasic_of_plain quote newline (by simpa using plain)
          rw [unescapes_multilineBasic.plain c _ basic, ih, prepend_some]

/-- Between three single quotes a text stands as it is, if no three of them follow each other in
it. -/
theorem multilineLiteral_append {rest : List Char} (other : rest.head? ≠ some '\'') {s : List Char}
    (stands : ∀ c ∈ s, c = '\'' ∨ c = '\n' ∨ isLiteral c = true)
    (few : ¬ ['\'', '\'', '\''] <:+: s) :
    multilineLiteral (s ++ '\'' :: '\'' :: '\'' :: rest) = some (s, rest) := by
  have ends := closes_multilineLiteral
  induction s with
  | nil => exact ends.three rest other
  | cons c s ih =>
    have tail := ih (fun d hd => stands d (.tail c hd)) fun inner =>
      few (inner.trans (List.suffix_cons c s).isInfix)
    rw [List.cons_append]
    rcases stands c (.head s) with rfl | rfl | plain
    · by_cases pair : ['\'', '\''] <+: s ++ '\'' :: '\'' :: '\'' :: rest
      · rcases s with - | ⟨c, - | ⟨d, s⟩⟩
        · exact ends.four rest other
        · obtain rfl : '\'' = c := by simpa using pair
          exact ends.five rest
        · obtain ⟨rfl, rfl⟩ : '\'' = c ∧ '\'' = d := by simpa using pair
          exact absurd (List.IsPrefix.isInfix ⟨s, rfl⟩) few
      · rw [ends.quote _ pair, tail, prepend_some]
    · rw [ends.newline, tail, prepend_some]
    · have special : c ≠ '\'' ∧ c ≠ '\n' ∧ c ≠ '\r' := by
        refine ⟨?_, ?_, ?_⟩ <;> exact Scan.ne_of_class plain (by decide)
      rw [multilineLiteral] <;> simp [special, plain, tail]

/-! ### The choice of quotes -/

theorem literal_append {s : List Char} (plain : ∀ c ∈ s, isLiteral c = true) (rest : List Char) :
    literal (s ++ '\'' :: rest) = some (s, rest) := by
  induction s with
  | nil => rfl
  | cons c s ih =>
    have quote : c ≠ '\'' := Scan.ne_of_class (plain c (.head s)) (by decide)
    rw [List.cons_append, literal]
    · rw [if_pos (plain c (.head s)), ih fun d hd => plain d (.tail c hd), prepend_some]
    · exact quote

/-- What the longest run is found with: the longest one so far and the one that goes on. -/
def countRun (q : Char) (runs : Nat × Nat) (d : Char) : Nat × Nat :=
  if d = q then (max runs.1 (runs.2 + 1), runs.2 + 1) else (runs.1, 0)

theorem le_foldl_countRun (q : Char) (s : List Char) (runs : Nat × Nat) :
    runs.1 ≤ (s.foldl (countRun q) runs).1 := by
  induction s generalizing runs with
  | nil => exact Nat.le_refl _
  | cons c s ih =>
    refine Nat.le_trans ?_ (ih _)
    unfold countRun
    split
    · exact Nat.le_max_left ..
    · exact Nat.le_refl _

theorem add_le_foldl_countRun (q : Char) (n : Nat) (runs : Nat × Nat) :
    runs.2 + n ≤ max runs.2 ((List.replicate n q).foldl (countRun q) runs).1 := by
  induction n generalizing runs with
  | zero => exact Nat.le_max_left ..
  | succ n ih =>
    have step : countRun q runs q = (max runs.1 (runs.2 + 1), runs.2 + 1) := if_pos rfl
    have rise := le_foldl_countRun q (List.replicate n q) (countRun q runs q)
    have more := ih (countRun q runs q)
    rw [List.replicate_succ, List.foldl_cons]
    rw [step] at rise more ⊢
    omega

/-- The longest run of a character is at least as long as any run of it. -/
theorem le_longestRun {q : Char} {n : Nat} {s : List Char} (run : List.replicate n q <:+: s) :
    n ≤ longestRun q s := by
  obtain ⟨before, after, rfl⟩ := run
  have longest : longestRun q (before ++ List.replicate n q ++ after) =
      ((before ++ List.replicate n q ++ after).foldl (countRun q) (0, 0)).1 := rfl
  rw [longest, List.foldl_append, List.foldl_append]
  have rise := le_foldl_countRun q after
    ((List.replicate n q).foldl (countRun q) (before.foldl (countRun q) (0, 0)))
  have count := add_le_foldl_countRun q n (before.foldl (countRun q) (0, 0))
  omega

theorem not_mem_of_longestRun {q : Char} {s : List Char} (none : longestRun q s = 0) : q ∉ s := by
  intro mem
  obtain ⟨before, after, rfl⟩ := List.append_of_mem mem
  have run : List.replicate 1 q <:+: before ++ q :: after := ⟨before, after, by simp⟩
  have := le_longestRun run
  omega

theorem style_eq_literal {s : List Char} (h : style s = .literal) :
    (∀ c ∈ s, isControl c = false) ∧ '\'' ∉ s ∧ '\n' ∉ s := by
  simp only [style] at h
  split_ifs at h
  simp_all [not_mem_of_longestRun]

theorem style_eq_multilineLiteral {s : List Char} (h : style s = .multilineLiteral) :
    (∀ c ∈ s, isControl c = false) ∧ longestRun '\'' s ≤ 2 := by
  simp only [style] at h
  split_ifs at h
  simp_all

/-- The line end that is written in front is the one that is passed over. -/
theorem dropFirstNewline_opening (s body : List Char)
    (first : '\n' ∉ s → body.head? ≠ some '\n' ∧ body.head? ≠ some '\r') :
    dropFirstNewline (opening s ++ body) = body := by
  by_cases newline : '\n' ∈ s
  · simp [opening, newline, dropFirstNewline]
  · obtain ⟨feed, return_⟩ := first newline
    have none : opening s = [] := by simp [opening, newline]
    rw [none, List.nil_append, dropFirstNewline.eq_def]
    split <;> simp_all

theorem text_basic {t : List Char} (single : ¬ ['"', '"'] <+: t) : text ('"' :: t) = basic t := by
  rw [text]
  rintro s rfl
  simp at single

theorem text_literal {t : List Char} (single : ¬ ['\'', '\''] <+: t) :
    text ('\'' :: t) = literal t := by
  rw [text]
  rintro s rfl
  simp at single

/-- What is written of a text between double quotes never begins with one. -/
theorem head?_basicBody (s : List Char) : (basicBody s).head? ≠ some '"' := by
  rcases s with - | ⟨c, s⟩
  · simp [basicBody]
  · have cons : basicBody (c :: s) =
        (if c = '"' || c = '\n' || needsEscape c then escaped c else [c]) ++ basicBody s := rfl
    rw [cons]
    split
    · next special =>
      have shown : Shows (escaped c) c := shows_escaped (by simpa [or_assoc] using special)
      rcases shown with ⟨d, shown, -⟩ | ⟨a, b, d, e, shown, -⟩ <;> rw [shown] <;> simp
    · next plain =>
      simp_all

theorem head?_multilineBasicBody {s : List Char} (newline : '\n' ∉ s) (rest : List Char) :
    (multilineBasicBody 0 s ++ '"' :: rest).head? ≠ some '\n' ∧
      (multilineBasicBody 0 s ++ '"' :: rest).head? ≠ some '\r' := by
  rcases s with - | ⟨c, s⟩
  · simp [multilineBasicBody]
  · by_cases quote : c = '"'
    · rw [multilineBasicBody, if_pos quote, if_pos (by decide)]
      simp
    · rw [multilineBasicBody, if_neg quote]
      split
      · next special =>
        rcases shows_escaped (.inr (.inr special)) with ⟨d, shown, -⟩ | ⟨a, b, d, e, shown, -⟩ <;>
          rw [shown] <;> simp
      · next plain =>
        have : c ≠ '\r' := (Scan.ne_of_class (by decide) (Bool.eq_false_iff.mpr plain)).symm
        have : c ≠ '\n' := fun feed => newline (feed ▸ .head s)
        simp [*]

/-- Behind an opening quote, a text that does not begin with one ends at a single one. -/
theorem not_pair {q : Char} {t rest : List Char} (first : t.head? ≠ some q)
    (other : rest.head? ≠ some q) : ¬ [q, q] <+: t ++ q :: rest := by
  rintro ⟨after, eq⟩
  rcases t with - | ⟨c, t⟩
  · obtain rfl : q :: after = rest := by simpa using eq
    exact other rfl
  · obtain ⟨rfl, -⟩ : q = c ∧ q :: after = t ++ q :: rest := by simpa using eq
    exact first rfl

/-- Every text that is written in quotes is read as itself, whatever other than a quote follows. -/
theorem text_text (s : List Char) {rest : List Char} (double : rest.head? ≠ some '"')
    (single : rest.head? ≠ some '\'') : text (Writer.text s ++ rest) = some (s, rest) := by
  unfold Writer.text
  -- The four styles in their order: plain or in three quotes, double or single ones.
  split
  · have alone := not_pair (head?_basicBody s) double
    simpa [alone, text_basic] using basic_basicBody s rest
  · next chosen =>
    obtain ⟨visible, quote, newline⟩ := style_eq_literal chosen
    have plain : ∀ c ∈ s, isLiteral c = true := fun c hc =>
      isLiteral_of_plain (by rintro rfl; exact quote hc) (by rintro rfl; exact newline hc)
        (visible c hc)
    have alone := not_pair (fun first => quote (List.mem_of_head? first)) single
    simpa [alone, text_literal] using literal_append plain rest
  · have opened := dropFirstNewline_opening s
      (multilineBasicBody 0 s ++ '"' :: '"' :: '"' :: rest)
      fun newline => head?_multilineBasicBody newline _
    simpa [text, opened] using multilineBasic_body double s 0
  · next chosen =>
    obtain ⟨visible, few⟩ := style_eq_multilineLiteral chosen
    have opened := dropFirstNewline_opening s (s ++ '\'' :: '\'' :: '\'' :: rest)
      fun newline => by
        rcases s with - | ⟨c, t⟩
        · simp
        · have : c ≠ '\r' := by
            rintro rfl
            exact absurd (visible '\r' (.head t)) (by decide)
          have : c ≠ '\n' := fun feed => newline (feed ▸ .head t)
          simp [*]
    have stands : ∀ c ∈ s, c = '\'' ∨ c = '\n' ∨ isLiteral c = true := fun c hc => by
      by_cases quote : c = '\''
      · exact .inl quote
      · by_cases newline : c = '\n'
        · exact .inr (.inl newline)
        · exact .inr (.inr (isLiteral_of_plain quote newline (visible c hc)))
    have none : ¬ List.replicate 3 '\'' <:+: s := fun run => by
      have := le_longestRun run
      omega
    simpa [text, opened] using multilineLiteral_append single stands none

end DebugBridge.Toml
