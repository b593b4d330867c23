import DebugBridge.Text.Blank
import DebugBridge.Text.Digits
import Mathlib.Data.List.TakeWhile

/-!
# Texts that name a number

A number in a text is a run of decimal digits, however many zeros it begins with. A numeral is such
a run after an optional plus sign and between blanks. It is read by trimming the text, which takes
away the blanks and nothing of the sign and the digits.
-/

namespace DebugBridge.Text

/-! ### Digits -/

def nextDigit (base : Nat) (total? : Option Nat) (d : Char) : Option Nat :=
  total?.bind fun total => (digitValue? base d).map (total * base + ·)

theorem numberIn?_eq_foldl (base : Nat) {s : List Char} (nonempty : s ≠ []) :
    numberIn? base s = s.foldl (nextDigit base) (some 0) := by
  cases s with
  | nil => exact absurd rfl nonempty
  | cons c s => rfl

theorem isDigit_iff {c : Char} : c.isDigit = true ↔ 0x30 ≤ c.toNat ∧ c.toNat ≤ 0x39 := by
  simp only [Char.isDigit, Bool.and_eq_true, decide_eq_true_eq, ge_iff_le, UInt32.le_iff_toNat_le]
  rfl

/-- A decimal digit has its value, and no other character has one. -/
theorem digitValue?_ten (c : Char) :
    digitValue? 10 c = if c.isDigit then some (c.toNat - '0'.toNat) else none := by
  by_cases digit : c.isDigit
  · have bounds := isDigit_iff.mp digit
    have value : c.toNat - 0x30 < 10 := by omega
    simp [digitValue?, digit, bounds, value]
  · have bounds := mt isDigit_iff.mpr digit
    simp only [digitValue?, digit, Bool.and_eq_true, decide_eq_true_eq, bounds, if_false]
    split
    · simp
    · split <;> simp

theorem foldl_nextDigit_none (base : Nat) (s : List Char) :
    s.foldl (nextDigit base) none = none := by
  induction s with
  | nil => rfl
  | cons c s ih => exact ih

/-- Reading on from a value reads decimal digits, and nothing else. -/
theorem foldl_nextDigit {s : List Char} {total n : Nat} :
    s.foldl (nextDigit 10) (some total) = some n ↔
      (∀ c ∈ s, c.isDigit = true) ∧ Nat.ofDigitChars 10 s total = n := by
  induction s generalizing total with
  | nil => simp [Nat.ofDigitChars]
  | cons c s ih =>
    have step : nextDigit 10 (some total) c =
        if c.isDigit then some (10 * total + (c.toNat - '0'.toNat)) else none := by
      rw [nextDigit, Option.bind_some, digitValue?_ten, Nat.mul_comm]
      split <;> rfl
    rw [List.foldl_cons, step]
    by_cases digit : c.isDigit
    · rw [if_pos digit, ih, Nat.ofDigitChars_cons]
      simp [digit]
    · rw [if_neg digit, foldl_nextDigit_none]
      simp [digit]

theorem number?_eq_some {s : List Char} {n : Nat} : number? s = some n ↔
    s ≠ [] ∧ (∀ c ∈ s, c.isDigit = true) ∧ Nat.ofDigitChars 10 s 0 = n := by
  by_cases empty : s = []
  · simp [empty, number?, numberIn?]
  · rw [number?, numberIn?_eq_foldl 10 empty, foldl_nextDigit]
    simp [empty]

theorem number?_toDigits (n : Nat) : number? (Nat.toDigits 10 n) = some n :=
  number?_eq_some.mpr ⟨Nat.toDigits_ne_nil,
    fun _ => Nat.isDigit_of_mem_toDigits (by decide) (by decide),
    Nat.ofDigitChars_toDigits (by decide) (by decide)⟩

/-! ### Blanks -/

theorem isBlank_of_isDigit {c : Char} (digit : c.isDigit = true) : isBlank c = false := by
  have bounds := isDigit_iff.mp digit
  simp only [isBlank, Bool.or_eq_false_iff, Bool.and_eq_false_iff, decide_eq_false_iff_not,
    beq_eq_false_iff_ne, ne_eq]
  omega

theorem trimRight_append (s : List Char) :
    trimRight s ++ (s.reverse.takeWhile isBlank).reverse = s := by
  rw [trimRight, ← List.reverse_append, List.takeWhile_append_dropWhile, List.reverse_reverse]

/-- Trimming takes blanks away at both ends. -/
theorem exists_trim (s : List Char) : ∃ before after, s = before ++ trim s ++ after ∧
    (∀ c ∈ before, isBlank c = true) ∧ ∀ c ∈ after, isBlank c = true := by
  refine ⟨s.takeWhile isBlank, ((trimLeft s).reverse.takeWhile isBlank).reverse, ?_,
    fun c mem => List.mem_takeWhile_imp mem,
    fun c mem => List.mem_takeWhile_imp (List.mem_reverse.mp mem)⟩
  rw [List.append_assoc, trim, trimRight_append]
  exact List.takeWhile_append_dropWhile.symm

theorem trimLeft_append {before : List Char} (blank : ∀ c ∈ before, isBlank c = true)
    {c : Char} (visible : isBlank c = false) (s : List Char) :
    trimLeft (before ++ c :: s) = c :: s := by
  rw [trimLeft, List.dropWhile_append_of_pos blank, List.dropWhile_cons_of_neg (by simp [visible])]

theorem trimRight_concat {after : List Char} (blank : ∀ c ∈ after, isBlank c = true)
    {c : Char} (visible : isBlank c = false) (s : List Char) :
    trimRight (s ++ [c] ++ after) = s ++ [c] := by
  have back : ∀ d ∈ after.reverse, isBlank d = true :=
    fun d mem => blank d (List.mem_reverse.mp mem)
  rw [trimRight, List.reverse_append, List.dropWhile_append_of_pos back, List.reverse_append,
    List.reverse_singleton, List.singleton_append, List.dropWhile_cons_of_neg (by simp [visible])]
  simp

/-- Between blanks trimming finds what neither begins nor ends with one. -/
theorem trim_append {before w after : List Char} (front : ∀ c ∈ before, isBlank c = true)
    (back : ∀ c ∈ after, isBlank c = true) (first : ∀ c, w.head? = some c → isBlank c = false)
    (last : ∀ c, w.getLast? = some c → isBlank c = false) (nonempty : w ≠ []) :
    trim (before ++ w ++ after) = w := by
  have left : trimLeft (before ++ w ++ after) = w ++ after := by
    obtain ⟨c, s, rfl⟩ := List.exists_cons_of_ne_nil nonempty
    rw [List.append_assoc, List.cons_append, trimLeft_append front (first c rfl)]
  obtain ⟨s, c, rfl⟩ := (List.eq_nil_or_concat w).resolve_left nonempty
  rw [trim, left, List.concat_eq_append, trimRight_concat back (last c (by simp))]

/-! ### Numerals -/

/-- The text names the number: decimal digits behind an optional plus sign, between blanks. -/
def Numeral (text : List Char) (n : Nat) : Prop :=
  ∃ before sign digits after, text = before ++ (sign ++ digits) ++ after ∧
    (∀ c ∈ before, isBlank c = true) ∧ (∀ c ∈ after, isBlank c = true) ∧
    (sign = [] ∨ sign = ['+']) ∧ digits ≠ [] ∧ (∀ c ∈ digits, c.isDigit = true) ∧
    Nat.ofDigitChars 10 digits 0 = n

theorem unsigned?_eq_some {s : List Char} {n : Nat} : unsigned? s = some n ↔
    ∃ sign digits, s = sign ++ digits ∧ (sign = [] ∨ sign = ['+']) ∧ number? digits = some n := by
  fun_cases unsigned? s with
  | case1 s =>
    constructor
    · intro number
      exact ⟨['+'], s, rfl, .inr rfl, number⟩
    · rintro ⟨sign, digits, shape, rfl | rfl, number⟩
      · subst shape
        obtain ⟨-, digits, -⟩ := number?_eq_some.mp number
        exact absurd (digits '+' List.mem_cons_self) (by decide)
      · cases shape
        exact number
  | case2 s plain =>
    constructor
    · intro number
      exact ⟨[], s, rfl, .inl rfl, number⟩
    · rintro ⟨sign, digits, shape, rfl | rfl, number⟩
      · rwa [shape]
      · exact absurd shape (plain digits)

/-- What is left of a text without blanks around it is a number exactly if the text is a numeral. -/
theorem unsigned?_trim {text : List Char} {n : Nat} :
    unsigned? (trim text) = some n ↔ Numeral text n := by
  rw [unsigned?_eq_some]
  simp only [number?_eq_some]
  constructor
  · rintro ⟨sign, digits, shape, optional, number⟩
    obtain ⟨before, after, whole, front, back⟩ := exists_trim text
    exact ⟨before, sign, digits, after, shape ▸ whole, front, back, optional, number⟩
  · rintro ⟨before, sign, digits, after, rfl, front, back, optional, nonempty, decimal, value⟩
    have visible : ∀ c ∈ sign ++ digits, isBlank c = false := by
      intro c mem
      rcases List.mem_append.mp mem with mem | mem
      · rcases optional with rfl | rfl
        · cases mem
        · rw [List.mem_singleton.mp mem]
          decide
      · exact isBlank_of_isDigit (decimal c mem)
    have first : ∀ c, (sign ++ digits).head? = some c → isBlank c = false :=
      fun c first => visible c (List.mem_of_head? first)
    have last : ∀ c, (sign ++ digits).getLast? = some c → isBlank c = false :=
      fun c last => visible c (List.mem_of_getLast? last)
    exact ⟨sign, digits, trim_append front back first last (by simp [nonempty]), optional, nonempty,
      decimal, value⟩

end DebugBridge.Text
