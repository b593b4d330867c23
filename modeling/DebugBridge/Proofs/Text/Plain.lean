import DebugBridge.Text.Utf8
import Mathlib.Tactic.SplitIfs

/-!
# Plain words in decoded bytes

A plain character is one byte, and no other bytes are read as one. So whether a text begins with a
plain word can be seen in its bytes, however broken they are.
-/

namespace DebugBridge.Utf8

/-- A character of one byte. Values that are no character are read as the character zero, which is
left out. -/
def IsPlain (c : Char) : Prop := 0 < c.toNat ∧ c.toNat < 0x80

instance (c : Char) : Decidable (IsPlain c) := inferInstanceAs (Decidable (_ ∧ _))

def plainByte (c : Char) : UInt8 := UInt8.ofNat c.toNat

theorem toNat_plainByte {c : Char} (plain : IsPlain c) : (plainByte c).toNat = c.toNat := by
  have lt : c.toNat < 256 := Nat.lt_trans plain.2 (by decide)
  simp [plainByte, Nat.mod_eq_of_lt lt]

theorem toNat_ofNat_low {n : Nat} (low : n < 0x80) : (Char.ofNat n).toNat = n := by
  have valid : n.isValidChar := Or.inl (by omega)
  unfold Char.ofNat
  rw [dif_pos valid]
  rfl

/-- Characters and faults of the bytes that come after those of an open character. -/
def unitsAfter (pending : Option Pending) (bytes : List UInt8) : List (Option Char) :=
  (bytes.foldl step ⟨[], pending⟩).finish

theorem begin_units (us : List (Option Char)) (b : Nat) :
    begin us b = ⟨(begin [] b).units ++ us, (begin [] b).pending⟩ := by
  unfold begin
  split <;> rfl

theorem begin_units_fault (us : List (Option Char)) (b : Nat) :
    begin (none :: us) b = ⟨(begin [none] b).units ++ us, (begin [none] b).pending⟩ := by
  rw [begin_units, begin_units [none]]
  simp

/-- What was read before has no influence on what is read next. -/
theorem step_units (us : List (Option Char)) (pending : Option Pending) (byte : UInt8) :
    step ⟨us, pending⟩ byte =
      ⟨(step ⟨[], pending⟩ byte).units ++ us, (step ⟨[], pending⟩ byte).pending⟩ := by
  unfold step
  cases pending with
  | none => exact begin_units us byte.toNat
  | some p =>
    dsimp only
    split
    · split <;> rfl
    · exact begin_units_fault us byte.toNat

theorem finish_units (us : List (Option Char)) (pending : Option Pending) :
    Reading.finish ⟨us, pending⟩ = us.reverse ++ Reading.finish ⟨[], pending⟩ := by
  cases pending <;> simp [Reading.finish]

theorem finish_foldl (bytes : List UInt8) : ∀ (us : List (Option Char)) (pending : Option Pending),
    (bytes.foldl step ⟨us, pending⟩).finish = us.reverse ++ unitsAfter pending bytes := by
  induction bytes with
  | nil => exact finish_units
  | cons byte rest ih =>
    intro us pending
    simp only [unitsAfter, List.foldl_cons]
    rw [step_units us, ih, ih (step ⟨[], pending⟩ byte).units]
    simp

theorem unitsAfter_cons (pending : Option Pending) (byte : UInt8) (rest : List UInt8) :
    unitsAfter pending (byte :: rest) =
      (step ⟨[], pending⟩ byte).units.reverse ++
        unitsAfter (step ⟨[], pending⟩ byte).pending rest := by
  rw [← finish_foldl]
  rfl

/-- A byte below 0x80 where a character begins is a character. -/
theorem unitsAfter_plain {byte : UInt8} (plain : byte.toNat < 0x80) (rest : List UInt8) :
    unitsAfter none (byte :: rest) = some (Char.ofNat byte.toNat) :: unitsAfter none rest := by
  have read : step ⟨[], none⟩ byte = ⟨[some (Char.ofNat byte.toNat)], none⟩ := by
    simp [step, begin, start, plain]
  rw [unitsAfter_cons, read]
  rfl

def Pending.Wide (p : Pending) : Prop :=
  2 ≤ p.value ∨ 2 ≤ p.left ∧ 2 ≤ p.value * 64 + (p.low - 0x80)

def Foreign (us : List (Option Char)) : Prop := ∀ c, us.head? = some (some c) → ¬ IsPlain c

theorem foreign_fault (us : List (Option Char)) : Foreign (none :: us) := by
  intro c first
  simp at first

theorem not_isPlain_ofNat {n : Nat} (wide : 0x80 ≤ n) : ¬ IsPlain (Char.ofNat n) := by
  intro ⟨positive, lt⟩
  by_cases valid : n.isValidChar
  · have same : (Char.ofNat n).toNat = n := by
      rw [Char.ofNat, dif_pos valid]
      rfl
    omega
  · rw [Char.ofNat, dif_neg valid] at positive
    exact absurd positive (by decide)

theorem foreign_ofNat {n : Nat} (wide : 0x80 ≤ n) (us : List (Option Char)) :
    Foreign (some (Char.ofNat n) :: us) := by
  intro c first
  obtain rfl : Char.ofNat n = c := by simpa using first
  exact not_isPlain_ofNat wide

/-- A character of several bytes is not plain, whatever its bytes are. -/
theorem foreign_pending {p : Pending} (wide : p.Wide) (bytes : List UInt8) :
    Foreign (unitsAfter (some p) bytes) := by
  induction bytes generalizing p with
  | nil => exact foreign_fault []
  | cons byte rest ih =>
    rw [unitsAfter_cons]
    unfold step
    dsimp only
    split
    · next within =>
      split
      · next last =>
        refine foreign_ofNat ?_ _
        unfold Pending.Wide at wide
        omega
      · next more =>
        refine ih ?_
        unfold Pending.Wide at wide ⊢
        dsimp only
        omega
    · rw [begin_units]
      simpa using foreign_fault _

/-- A byte that is a character by itself is below 0x80. -/
theorem start_whole {b : Nat} {c : Char} (started : start b = .whole c) :
    b < 0x80 ∧ Char.ofNat b = c := by
  revert started
  fun_cases start b
  case case1 low => exact fun same => ⟨low, Start.whole.inj same⟩
  all_goals exact nofun

/-- A character that is opened is none of a single byte, and no byte below 0x80 continues it. -/
theorem start_opened {b : Nat} {p : Pending} (started : start b = .opened p) :
    p.Wide ∧ 0x80 ≤ p.low := by
  revert started
  unfold Pending.Wide
  fun_cases start b
  case case1 | case2 | case10 => exact nofun
  all_goals
    intro same
    obtain rfl := Start.opened.inj same
    dsimp only
    omega

/-- A byte from 0x80 on begins no plain character. -/
theorem foreign_start {byte : UInt8} (high : 0x80 ≤ byte.toNat) (rest : List UInt8) :
    Foreign (unitsAfter none (byte :: rest)) := by
  rw [unitsAfter_cons]
  unfold step begin
  dsimp only
  cases started : start byte.toNat with
  | whole c => exact absurd (start_whole started).1 (Nat.not_lt_of_le high)
  | opened p => exact foreign_pending (start_opened started).1 rest
  | fault => exact foreign_fault _

theorem toList_decode (bytes : List UInt8) :
    (decode bytes).toList = (unitsAfter none bytes).map (·.getD '\uFFFD') := by
  simp [decode, units, unitsAfter, Reading.empty]

/-- A text begins with a plain word exactly if its bytes do. -/
theorem isPrefix_decode_iff {word : List Char} (plain : ∀ c ∈ word, IsPlain c)
    (bytes : List UInt8) :
    word <+: (decode bytes).toList ↔ word.map plainByte <+: bytes := by
  rw [toList_decode]
  induction word generalizing bytes with
  | nil => simp
  | cons c word ih =>
    have plainHere : IsPlain c := plain c List.mem_cons_self
    have plainLater : ∀ c ∈ word, IsPlain c := fun c mem => plain c (List.mem_cons_of_mem _ mem)
    cases bytes with
    | nil => simp [unitsAfter, Reading.finish]
    | cons byte rest =>
      by_cases low : byte.toNat < 0x80
      · have same : c = Char.ofNat byte.toNat ↔ plainByte c = byte := by
          constructor
          · intro same
            refine UInt8.toNat_inj.mp ?_
            rw [toNat_plainByte plainHere, same, toNat_ofNat_low low]
          · rintro rfl
            rw [toNat_plainByte plainHere, Char.ofNat_toNat]
        simp only [unitsAfter_plain low, List.map_cons, List.cons_prefix_cons, Option.getD_some,
          same, ih plainLater]
      · have high : 0x80 ≤ byte.toNat := Nat.le_of_not_lt low
        constructor
        · intro first
          exfalso
          cases read : unitsAfter none (byte :: rest) with
          | nil => simp [read] at first
          | cons unit units =>
            rw [read, List.map_cons, List.cons_prefix_cons] at first
            cases unit with
            | none =>
              obtain rfl : c = '\uFFFD' := first.1
              exact absurd plainHere (by decide)
            | some d =>
              obtain rfl : c = d := first.1
              exact foreign_start high rest c (by rw [read]; rfl) plainHere
        · intro first
          rw [List.map_cons, List.cons_prefix_cons] at first
          have value : byte.toNat = c.toNat := by rw [← first.1, toNat_plainByte plainHere]
          have lt := plainHere.2
          omega

end DebugBridge.Utf8
