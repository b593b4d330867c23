import DebugBridge.Proofs.Text.Plain
import DebugBridge.Text.Lines

/-!
# Decoding up to a plain character

A plain character ends whatever character is open before it, so reading goes on from it as if
nothing had come before. Hence it makes no difference whether bytes are cut before the first of some
plain characters and then decoded, or decoded and then cut: what was left incomplete at the cut is
one fault either way.
-/

namespace DebugBridge.Utf8

def before (ends : List Char) (bytes : List UInt8) : List UInt8 :=
  bytes.takeWhile (· ∉ ends.map plainByte)

section before
variable {ends : List Char} {byte : UInt8}

theorem before_cons_end (stop : byte ∈ ends.map plainByte) (rest : List UInt8) :
    before ends (byte :: rest) = [] := List.takeWhile_cons_of_neg (by simpa using stop)

theorem before_cons (other : byte ∉ ends.map plainByte) (rest : List UInt8) :
    before ends (byte :: rest) = byte :: before ends rest :=
  List.takeWhile_cons_of_pos (by simpa using other)

end before

/-- What comes after the end does not matter, nor where it is cut off. -/
theorem before_take {ends : List Char} {bytes : List UInt8} {n : Nat}
    (fits : (before ends bytes).length ≤ n) : before ends (bytes.take n) = before ends bytes := by
  unfold before
  rw [← List.take_takeWhile]
  exact List.take_of_length_le fits

/-- The open character is none of a single byte, and no byte below 0x80 continues it. -/
structure Pending.Begun (p : Pending) : Prop where
  wide : p.Wide
  high : 0x80 ≤ p.low

/-- What one more byte does: it is no plain character unless it is one by itself. -/
structure Passes (byte : UInt8) (r : Reading) : Prop where
  units : ∀ c, some c ∈ r.units → IsPlain c → plainByte c = byte
  pending : ∀ p ∈ r.pending, p.Begun

theorem passes_begin {us : List (Option Char)} (faults : ∀ u ∈ us, u = none) (byte : UInt8) :
    Passes byte (begin us byte.toNat) := by
  have faultless (c : Char) : some c ∉ us := fun mem => nomatch faults _ mem
  unfold begin
  cases started : start byte.toNat with
  | whole c =>
    refine ⟨fun d mem plain => ?_, nofun⟩
    obtain rfl := Option.some.inj ((List.mem_cons.mp mem).resolve_right (faultless d))
    obtain ⟨low, rfl⟩ := start_whole started
    refine UInt8.toNat_inj.mp ?_
    rw [toNat_plainByte plain, toNat_ofNat_low low]
  | opened p =>
    refine ⟨fun d mem => absurd mem (faultless d), ?_⟩
    rintro _ ⟨⟩
    obtain ⟨wide, high⟩ := start_opened started
    exact ⟨wide, high⟩
  | fault => exact ⟨fun d mem => absurd (List.mem_cons.mp mem) (by simp [faultless]), nofun⟩

/-- What is known of an open character is still known after the next byte. -/
theorem passes_step {pending : Option Pending} (begun : ∀ p ∈ pending, p.Begun) (byte : UInt8) :
    Passes byte (step ⟨[], pending⟩ byte) := by
  unfold step
  cases pending with
  | none => exact passes_begin (by simp) byte
  | some p =>
    have wide := (begun p rfl).wide
    unfold Pending.Wide at wide
    dsimp only
    split_ifs with within last
    · refine ⟨fun c mem plain => ?_, nofun⟩
      rw [Option.some.inj (List.mem_singleton.mp mem)] at plain
      exact absurd plain (not_isPlain_ofNat (by omega))
    · refine ⟨fun c mem => absurd mem List.not_mem_nil, fun q eq => ?_⟩
      obtain rfl := Option.some.inj eq
      exact ⟨by unfold Pending.Wide; dsimp only; omega, Nat.le_refl _⟩
    · exact passes_begin (by simp) byte

/-- A byte below 0x80 is a character, whatever was open before it. -/
theorem unitsAfter_resumed {pending : Option Pending} (begun : ∀ p ∈ pending, p.Begun)
    {byte : UInt8} (plain : byte.toNat < 0x80) (rest : List UInt8) :
    unitsAfter pending (byte :: rest) =
      unitsAfter pending [] ++ some (Char.ofNat byte.toNat) :: unitsAfter none rest := by
  cases pending with
  | none => exact unitsAfter_plain plain rest
  | some p =>
    have outside : ¬ (p.low ≤ byte.toNat ∧ byte.toNat ≤ p.high) := by
      have high := (begun p rfl).high
      omega
    have read : step ⟨[], some p⟩ byte = ⟨[some (Char.ofNat byte.toNat), none], none⟩ := by
      simp [step, outside, begin, start, plain]
    rw [unitsAfter_cons, read]
    rfl

/-- No unit of a character that is left open ends anything. -/
theorem takeWhile_unread (ends : List Char) (pending : Option Pending)
    (us : List (Option Char)) :
    (unitsAfter pending [] ++ us).takeWhile (· ∉ ends.map some) =
      unitsAfter pending [] ++ us.takeWhile (· ∉ ends.map some) := by
  refine List.takeWhile_append_of_pos fun u mem => ?_
  cases pending <;> simp_all [unitsAfter, Reading.finish]

section ends
variable {ends : List Char} (plain : ∀ c ∈ ends, IsPlain c)
include plain

/-- The units before an end are those of the bytes before it. -/
theorem unitsAfter_before (bytes : List UInt8) (pending : Option Pending)
    (begun : ∀ p ∈ pending, p.Begun) :
    unitsAfter pending (before ends bytes) =
      (unitsAfter pending bytes).takeWhile (· ∉ ends.map some) := by
  induction bytes generalizing pending with
  | nil =>
    have nothing := takeWhile_unread ends pending []
    rw [List.append_nil] at nothing
    exact (nothing.trans (List.append_nil _)).symm
  | cons byte rest ih =>
    by_cases stop : byte ∈ ends.map plainByte
    · obtain ⟨c, mem, rfl⟩ := List.mem_map.mp stop
      have low : (plainByte c).toNat < 0x80 := by
        rw [toNat_plainByte (plain c mem)]
        exact (plain c mem).2
      rw [before_cons_end stop, unitsAfter_resumed begun low, takeWhile_unread ends,
        toNat_plainByte (plain c mem), Char.ofNat_toNat]
      simp [mem]
    · have passes := passes_step begun byte
      rw [before_cons stop, unitsAfter_cons, unitsAfter_cons, ih _ passes.pending]
      refine (List.takeWhile_append_of_pos fun u mem => ?_).symm
      cases u with
      | none => simp
      | some c =>
        have other : c ∉ ends := fun among => stop (List.mem_map.mpr
          ⟨c, among, passes.units c (List.mem_reverse.mp mem) (plain c among)⟩)
        simpa using other

/-- Cutting before the first of some plain characters can be done before or after decoding. -/
theorem toList_decode_before (bytes : List UInt8) :
    (decode (before ends bytes)).toList = (decode bytes).toList.takeWhile (· ∉ ends) := by
  have same : (fun u : Option Char => decide (u ∉ ends.map some)) =
      (fun c => decide (c ∉ ends)) ∘ (·.getD '\uFFFD') := by
    funext u
    cases u with
    | none =>
      have other : '\uFFFD' ∉ ends := fun mem => absurd (plain _ mem) (by decide)
      simp [other]
    | some c => simp
  rw [toList_decode, toList_decode, unitsAfter_before plain bytes none nofun, List.takeWhile_map,
    same]

end ends

def tokenEnds : List Char := [' ', '\t', '\r', '\n']

def lineEnds : List Char := ['\r', '\n']

example : tokenEnds.map plainByte = [0x20, 0x09, 0x0d, 0x0a] := by decide

/-- The bytes before the first white space are the first token. -/
theorem decode_before_token (bytes : List UInt8) :
    decode (before tokenEnds bytes) = Text.firstToken (decode bytes) := by
  have cut : (fun c => decide (c ∉ tokenEnds)) = (!Text.endsToken ·) := by
    funext c
    simp [tokenEnds, Text.endsToken, Bool.beq_eq_decide_eq, Bool.and_assoc]
  have plain : ∀ c ∈ tokenEnds, IsPlain c := by simp [tokenEnds, IsPlain]
  rw [Text.firstToken, ← cut, ← toList_decode_before plain, String.ofList_toList]

/-- The bytes before the first line end are the first line. -/
theorem decode_before_line (bytes : List UInt8) :
    decode (before lineEnds bytes) = Text.firstLine (decode bytes) := by
  have cut : (fun c => decide (c ∉ lineEnds)) = (!Text.endsLine ·) := by
    funext c
    simp [lineEnds, Text.endsLine, Bool.beq_eq_decide_eq]
  have plain : ∀ c ∈ lineEnds, IsPlain c := by simp [lineEnds, IsPlain]
  rw [Text.firstLine, ← cut, ← toList_decode_before plain, String.ofList_toList]

end DebugBridge.Utf8
