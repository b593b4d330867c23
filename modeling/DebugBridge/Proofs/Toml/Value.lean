import DebugBridge.Proofs.Text.Numeral
import DebugBridge.Proofs.Toml.Quotation
import DebugBridge.Proofs.Toml.Scan
import DebugBridge.Toml.Document

/-!
# Values that were written

A text, a truth value or a number that was written at the end of a line is read as itself. A number
is the last kind of value that the reader tries: the digits of a number that was written are no
moment, because a moment has a minus sign or a colon behind some of them, and they have neither a
fraction, nor an exponent, nor a base mark.
-/

namespace DebugBridge.Toml

open Scan
open DebugBridge.Text (number? digitValue?_ten number?_eq_some number?_toDigits)
open Number (isDigit)

/-! ### Decimal digits -/

theorem isDigit_ten (c : Char) : isDigit 10 c = c.isDigit := by
  rw [isDigit, digitValue?_ten]
  cases c.isDigit <;> rfl

/-- What has a value consists of digits. -/
theorem isDigit_of_number? {s : List Char} {n : Nat} (value : number? s = some n) {c : Char}
    (mem : c ∈ s) : isDigit 10 c = true :=
  (isDigit_ten c).trans ((number?_eq_some.mp value).2.1 c mem)

theorem isDigit_of_mem_toDigits {n : Nat} {c : Char} (mem : c ∈ Nat.toDigits 10 n) :
    isDigit 10 c = true :=
  isDigit_of_number? (number?_toDigits n) mem

/-- Only zero is written with a zero in front. -/
theorem head?_toDigits {n : Nat} (pos : 0 < n) : (Nat.toDigits 10 n).head? ≠ some '0' := by
  induction n using Nat.strongRecOn with
  | ind n ih =>
    rw [Nat.toDigits_eq_if (by decide)]
    split
    · simpa using Nat.ne_of_gt pos
    · next large =>
      have front := ih (n / 10) (by omega) (by omega)
      rcases more : Nat.toDigits 10 (n / 10) with - | ⟨c, s⟩
      · exact absurd more Nat.toDigits_ne_nil
      · rw [more] at front
        exact front

/-! ### Digits are no moment -/

section moment
variable {ds : List Char} (digits : ∀ c ∈ ds, isDigit 10 c = true) (rest : List Char)
include digits

/-- Behind a field of a moment that was read from digits, more of them or the line end follow. -/
theorem char_field {k low high value : Nat} {left : List Char} {mark : Char}
    (field : Moment.field k low high (ds ++ '\n' :: rest) = some (value, left))
    (other : isDigit 10 mark = false) (feed : mark ≠ '\n') : char mark left = none := by
  simp only [Moment.field, Option.bind_eq_some_iff, Option.ite_none_right_eq_some,
    Option.some.injEq, Prod.mk.injEq] at field
  obtain ⟨n, number, ⟨length, -, -⟩, -, rfl⟩ := field
  have inside : k ≤ ds.length := by
    rcases Nat.lt_or_ge ds.length k with beyond | inside
    · have mem : '\n' ∈ (ds ++ '\n' :: rest).take k := by
        rw [List.take_append, List.take_cons (by omega)]
        simp
      exact absurd (isDigit_of_number? number mem) (by decide)
    · exact inside
  rw [List.drop_append_of_le_length inside]
  apply char_none
  rcases more : ds.drop k with - | ⟨c, more⟩
  · simpa using Ne.symm feed
  · have mem : c ∈ ds := List.mem_of_mem_drop (i := k) (by rw [more]; exact .head _)
    rintro ⟨⟩
    rw [digits mark mem] at other
    cases other

theorem date_digits : Moment.date (ds ++ '\n' :: rest) = none := by
  rcases year : Moment.field 4 0 9999 (ds ++ '\n' :: rest) with - | ⟨value, left⟩
  · exact bind_none year _
  · rw [Moment.date, bind_some year]
    exact bind_none (char_field digits rest year (by decide) (by decide)) _

theorem time_digits : Moment.time (ds ++ '\n' :: rest) = none := by
  rcases hour : Moment.field 2 0 23 (ds ++ '\n' :: rest) with - | ⟨value, left⟩
  · exact bind_none hour _
  · rw [Moment.time, bind_some hour]
    exact bind_none (char_field digits rest hour (by decide) (by decide)) _

theorem moment_digits : Moment.moment (ds ++ '\n' :: rest) = none := by
  have date : Moment.dateTime (ds ++ '\n' :: rest) = none := bind_none (date_digits digits rest) _
  rw [Moment.moment, get_bind]
  exact bind_none ((orElse_none date _).trans (time_digits digits rest)) _

end moment

/-! ### Whole numbers -/

theorem moreDigits_append {ds : List Char} (digits : ∀ c ∈ ds, isDigit 10 c = true)
    (rest : List Char) : Number.moreDigits 10 (ds ++ '\n' :: rest) = (ds, '\n' :: rest) := by
  induction ds with
  | nil =>
    rw [List.nil_append, Number.moreDigits]
    · exact if_neg (by decide)
    · rintro c s ⟨⟩
  | cons d ds ih =>
    obtain ⟨digit, digits⟩ := List.forall_mem_cons.mp digits
    rw [List.cons_append, Number.moreDigits, if_pos digit, ih digits]
    rintro c s rfl
    exact absurd digit (by decide)

section number
variable (n : Nat) (rest : List Char)

/-- The first digit, which is a zero for zero only. -/
theorem toDigits_cons :
    ∃ d ds, Nat.toDigits 10 n = d :: ds ∧ isDigit 10 d = true ∧ (d = '0' → n = 0) := by
  rcases eq : Nat.toDigits 10 n with - | ⟨d, ds⟩
  · exact absurd eq Nat.toDigits_ne_nil
  · have mem : d ∈ Nat.toDigits 10 n := by
      rw [eq]
      exact .head ds
    refine ⟨d, ds, rfl, isDigit_of_mem_toDigits mem, ?_⟩
    rintro rfl
    rcases Nat.eq_zero_or_pos n with zero | pos
    · exact zero
    · exact absurd (by rw [eq]; rfl) (head?_toDigits pos)

theorem sign_toDigits : Number.sign (Nat.toDigits 10 n ++ '\n' :: rest) =
    some (false, Nat.toDigits 10 n ++ '\n' :: rest) := by
  obtain ⟨d, ds, eq, digit, -⟩ := toDigits_cons n
  have minus : d ≠ '-' := ne_of_class digit (by decide)
  have plus : d ≠ '+' := ne_of_class digit (by decide)
  rw [eq, List.cons_append, Number.sign] <;> rintro s ⟨⟩ <;> contradiction

theorem wholeDigits_toDigits : Number.wholeDigits (Nat.toDigits 10 n ++ '\n' :: rest) =
    some (Nat.toDigits 10 n, '\n' :: rest) := by
  rcases Nat.eq_zero_or_pos n with rfl | pos
  · rfl
  · obtain ⟨d, ds, eq, digit, zero⟩ := toDigits_cons n
    have digits : ∀ c ∈ ds, isDigit 10 c = true := fun c hc =>
      isDigit_of_mem_toDigits (n := n) (by rw [eq]; exact .tail d hc)
    rw [eq, List.cons_append, Number.wholeDigits, Number.digits, if_pos digit,
      moreDigits_append digits rest]
    rintro s ⟨⟩
    exact Nat.ne_of_gt pos (zero rfl)

/-- Neither a fraction nor an exponent follows. -/
theorem decimal_toDigits : Number.decimal (Nat.toDigits 10 n ++ '\n' :: rest) = none := by
  have fraction : Number.fraction ('\n' :: rest) = none := bind_none (char_none (by simp)) _
  have mark : (char 'e' <|> char 'E' : Scan Unit) ('\n' :: rest) = none :=
    (orElse_none (char_none (by simp)) _).trans (char_none (by simp))
  have exponent : Number.exponent ('\n' :: rest) = none := bind_none mark _
  rw [Number.decimal, bind_some (sign_toDigits n rest), bind_some (wholeDigits_toDigits n rest),
    bind_some (maybe_none fraction), bind_some (maybe_none exponent)]
  rfl

theorem named_toDigits : Number.named (Nat.toDigits 10 n ++ '\n' :: rest) = none := by
  rw [Number.named, bind_some (sign_toDigits n rest)]
  obtain ⟨d, ds, eq, digit, -⟩ := toDigits_cons n
  have infinity : d ≠ 'i' := ne_of_class digit (by decide)
  have notANumber : d ≠ 'n' := ne_of_class digit (by decide)
  rw [eq, List.cons_append, orElse_none (bind_none (word_none infinity _) _),
    bind_none (word_none notANumber _)]

/-- A base mark follows a zero, and a zero in front is the whole number. -/
theorem based_toDigits : Number.based (Nat.toDigits 10 n ++ '\n' :: rest) = none := by
  rcases Nat.eq_zero_or_pos n with rfl | pos
  · rfl
  · obtain ⟨d, ds, eq, -, zero⟩ := toDigits_cons n
    have nonzero : d ≠ '0' := fun h => Nat.ne_of_gt pos (zero h)
    simp [eq, Number.based, nonzero]

variable {n}

theorem whole_toDigits (small : n < integerBound) :
    Number.whole (Nat.toDigits 10 n ++ '\n' :: rest) = some (.integer n, '\n' :: rest) := by
  have value : Number.valueOf 10 (Nat.toDigits 10 n) = n := by
    exact congrArg (·.getD 0) (number?_toDigits n)
  have fits : Number.integer? (Number.signed false n) = some (.integer n) := by
    have range : -(integerBound : Int) ≤ n ∧ (n : Int) < integerBound := by omega
    exact if_pos range
  rw [Number.whole, bind_some (sign_toDigits n rest), bind_some (wholeDigits_toDigits n rest),
    value, fits]
  rfl

end number

/-! ### Values at the end of a line -/

/-- These characters are a value, if the line ends behind them. -/
structure Stands (written : List Char) (v : Node) : Prop where
  value : ∀ rest, value depthLimit (written ++ '\n' :: rest) = some (v, '\n' :: rest)
  visible : ∀ c, written.head? = some c → isBlank c = false
  nonempty : written ≠ []

theorem value_of_plainValue {c : Char} {s : List Char} (array : c ≠ '[') (table : c ≠ '\x7b') :
    value depthLimit (c :: s) = plainValue (c :: s) := by
  rw [depthLimit, value, bind_some peek_apply]
  simp [array, table]

/-- What begins with a digit is a moment or a number. -/
theorem plainValue_of_isDigit {c : Char} (digit : isDigit 10 c = true) (s : List Char) :
    plainValue (c :: s) =
      ((do return .moment (← Moment.moment)) <|> Number.number : Scan Node) (c :: s) := by
  have special : c ≠ '"' ∧ c ≠ '\'' ∧ c ≠ 't' ∧ c ≠ 'f' := by
    refine ⟨?_, ?_, ?_, ?_⟩ <;> exact ne_of_class digit (by decide)
  rw [plainValue, bind_some peek_apply]
  simp [special]

theorem text_cons (s : List Char) :
    ∃ q t, Writer.text s = q :: t ∧ (q = '"' ∨ q = '\'') := by
  unfold Writer.text
  split
  · exact ⟨'"', _, rfl, .inl rfl⟩
  · exact ⟨'\'', _, rfl, .inr rfl⟩
  · exact ⟨'"', _, rfl, .inl rfl⟩
  · exact ⟨'\'', _, rfl, .inr rfl⟩

theorem stands_text (s : List Char) : Stands (Writer.text s) (.text s) := by
  obtain ⟨q, t, eq, quote⟩ := text_cons s
  refine ⟨fun rest => ?_, ?_, ?_⟩
  · have read : Text.text (Writer.text s ++ '\n' :: rest) = some (s, '\n' :: rest) :=
      text_text s (by simp) (by simp)
    rw [eq, List.cons_append] at read ⊢
    rcases quote with rfl | rfl <;>
    · rw [value_of_plainValue (by decide) (by decide), plainValue, bind_some peek_apply]
      exact bind_some read _
  · rw [eq]
    rcases quote with rfl | rfl <;> rintro c ⟨⟩ <;> rfl
  · rw [eq]
    exact List.cons_ne_nil q t

theorem stands_flag (b : Bool) : Stands (Writer.value (.flag b)) (.flag b) where
  value rest := by cases b <;> rfl
  visible c first := by cases b <;> cases first <;> rfl
  nonempty := by cases b <;> decide

theorem stands_number {n : Nat} (small : n < integerBound) :
    Stands (Writer.value (.number n)) (.integer n) := by
  rw [Writer.value, Nat.repr_eq_ofList_toDigits, String.toList_ofList]
  obtain ⟨d, ds, eq, digit, -⟩ := toDigits_cons n
  refine ⟨fun rest => ?_, ?_, Nat.toDigits_ne_nil⟩
  · have moment := moment_digits (fun c hc => isDigit_of_mem_toDigits (n := n) hc) rest
    have number : Number.number (Nat.toDigits 10 n ++ '\n' :: rest) =
        some (.integer n, '\n' :: rest) := by
      rw [Number.number, orElse_none (decimal_toDigits n rest),
        orElse_none (named_toDigits n rest), orElse_none (based_toDigits n rest),
        whole_toDigits rest small]
    rw [eq, List.cons_append] at moment number ⊢
    rw [value_of_plainValue (ne_of_class digit (by decide)) (ne_of_class digit (by decide)),
      plainValue_of_isDigit digit]
    exact (orElse_none (bind_none moment _) _).trans number
  · rw [eq]
    rintro c ⟨⟩
    simp [isBlank, ne_of_class digit (d := ' ') (by decide),
      ne_of_class digit (d := '\t') (by decide)]

theorem stands_value {v : Value} (writable : v.isWritable = true) :
    Stands (Writer.value v) v.node := by
  cases v with
  | text s => exact stands_text s.toList
  | flag b => exact stands_flag b
  | number n => exact stands_number (of_decide_eq_true writable)

end DebugBridge.Toml
