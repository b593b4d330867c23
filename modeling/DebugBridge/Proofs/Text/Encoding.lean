import DebugBridge.Text.Utf8
import Mathlib.Tactic.SplitIfs

/-!
# Texts that were encoded

The bytes of a character are read as that character and leave nothing open, so the bytes of a text
are read as the text.
-/

namespace DebugBridge.Utf8

/-! ### The bytes of a text -/

theorem toList_loop (bytes : ByteArray) (i : Nat) (r : List UInt8) :
    ByteArray.toList.loop bytes i r = r.reverse ++ bytes.data.toList.drop i := by
  fun_induction ByteArray.toList.loop bytes i r with
  | case1 i r more ih =>
    have inside : i < bytes.data.toList.length := by simpa using more
    rw [ih, List.drop_eq_getElem_cons inside]
    simp [ByteArray.get!, more]
  | case2 i r done =>
    rw [List.drop_eq_nil_of_le (by simpa using Nat.le_of_not_lt done)]
    simp

theorem encode_eq (s : String) : encode s = s.toList.flatMap String.utf8EncodeChar := by
  have bytes : s.toUTF8 = (s.toList.flatMap String.utf8EncodeChar).toByteArray := by
    conv => lhs; rw [← String.ofList_toList (s := s)]
    exact String.toUTF8_eq_toByteArray
  rw [encode, bytes, ByteArray.toList, toList_loop, List.toList_data_toByteArray]
  rfl

/-! ### The bytes of a character -/

theorem toNat_ofNat_byte {n : Nat} (byte : n < 256) : (UInt8.ofNat n).toNat = n := by
  simp [Nat.mod_eq_of_lt byte]

section step
variable (us : List (Option Char)) {n : Nat}

/-- A byte that begins a character of several bytes. -/
theorem step_begin (byte : n < 256) {p : Pending} (begun : start n = .opened p) :
    step ⟨us, none⟩ (UInt8.ofNat n) = ⟨us, some p⟩ := by
  simp only [step, toNat_ofNat_byte byte, begin, begun]

/-- A byte in the middle of a character. -/
theorem step_middle (byte : n < 256) {value left low high : Nat} (within : low ≤ n ∧ n ≤ high)
    (more : 2 ≤ left) :
    step ⟨us, some ⟨value, left, low, high⟩⟩ (UInt8.ofNat n) =
      ⟨us, some ⟨value * 64 + (n - 0x80), left - 1, 0x80, 0xbf⟩⟩ := by
  have open_ : ¬ left ≤ 1 := by omega
  simp only [step, toNat_ofNat_byte byte, if_pos within, if_neg open_]

/-- The last byte of a character. -/
theorem step_last (byte : n < 256) {value low high : Nat} (within : low ≤ n ∧ n ≤ high) :
    step ⟨us, some ⟨value, 1, low, high⟩⟩ (UInt8.ofNat n) =
      ⟨some (Char.ofNat (value * 64 + (n - 0x80))) :: us, none⟩ := by
  simp only [step, toNat_ofNat_byte byte, if_pos within, Nat.le_refl, if_true]

end step

theorem start_two {v : Nat} (low : 0x80 ≤ v) (high : v < 0x800) :
    start (v / 64 + 192) = .opened ⟨v / 64, 1, 0x80, 0xbf⟩ := by
  unfold start
  rw [if_neg (by omega), if_neg (by omega), if_pos (by omega), Nat.add_sub_cancel]

/-- The first byte of three; it keeps overlong forms and surrogates out by the bounds on the
second. -/
theorem start_three {v : Nat} (low : 0x800 ≤ v) (high : v < 0x10000)
    (valid : v < 0xd800 ∨ 0xdfff < v) :
    ∃ least greatest, start (v / 4096 + 224) = .opened ⟨v / 4096, 2, least, greatest⟩ ∧
      least ≤ v / 64 % 64 + 128 ∧ v / 64 % 64 + 128 ≤ greatest := by
  by_cases zero : v / 4096 = 0
  · exact ⟨0xa0, 0xbf, by rw [zero]; rfl, by omega, by omega⟩
  · by_cases surrogate : v / 4096 = 13
    · exact ⟨0x80, 0x9f, by rw [surrogate]; rfl, by omega, by omega⟩
    · refine ⟨0x80, 0xbf, ?_, by omega, by omega⟩
      unfold start
      rw [if_neg (by omega), if_neg (by omega), if_neg (by omega), if_neg (by omega),
        if_neg (by omega), if_pos (by omega), Nat.add_sub_cancel]

/-- The first byte of four; it keeps overlong forms and values past the last character out. -/
theorem start_four {v : Nat} (low : 0x10000 ≤ v) (high : v < 0x110000) :
    ∃ least greatest, start (v / 262144 + 240) = .opened ⟨v / 262144, 3, least, greatest⟩ ∧
      least ≤ v / 4096 % 64 + 128 ∧ v / 4096 % 64 + 128 ≤ greatest := by
  by_cases zero : v / 262144 = 0
  · exact ⟨0x90, 0xbf, by rw [zero]; rfl, by omega, by omega⟩
  · by_cases four : v / 262144 = 4
    · exact ⟨0x80, 0x8f, by rw [four]; rfl, by omega, by omega⟩
    · refine ⟨0x80, 0xbf, ?_, by omega, by omega⟩
      unfold start
      rw [if_neg (by omega), if_neg (by omega), if_neg (by omega), if_neg (by omega),
        if_neg (by omega), if_neg (by omega), if_neg (by omega), if_pos (by omega),
        Nat.add_sub_cancel]

/-- The bytes of a character by its scalar value. -/
theorem encodeChar_eq (c : Char) : String.utf8EncodeChar c =
    if c.toNat ≤ 127 then [UInt8.ofNat c.toNat]
    else if c.toNat ≤ 2047 then
      [UInt8.ofNat (c.toNat / 64 % 32 + 192), UInt8.ofNat (c.toNat % 64 + 128)]
    else if c.toNat ≤ 65535 then
      [UInt8.ofNat (c.toNat / 4096 % 16 + 224), UInt8.ofNat (c.toNat / 64 % 64 + 128),
        UInt8.ofNat (c.toNat % 64 + 128)]
    else
      [UInt8.ofNat (c.toNat / 262144 % 8 + 240), UInt8.ofNat (c.toNat / 4096 % 64 + 128),
        UInt8.ofNat (c.toNat / 64 % 64 + 128), UInt8.ofNat (c.toNat % 64 + 128)] := rfl

/-- The bytes of a character are read as the character. -/
theorem foldl_step_encodeChar (us : List (Option Char)) (c : Char) :
    (String.utf8EncodeChar c).foldl step ⟨us, none⟩ = ⟨some c :: us, none⟩ := by
  have valid : c.toNat < 0xd800 ∨ 0xdfff < c.toNat ∧ c.toNat < 0x110000 := c.valid
  have char {v : Nat} (same : v = c.toNat) : Char.ofNat v = c := same ▸ Char.ofNat_toNat c
  rw [encodeChar_eq]
  split_ifs with one two three
  · have whole : start c.toNat = .whole (Char.ofNat c.toNat) := if_pos (by omega)
    simp only [List.foldl_cons, List.foldl_nil, step, toNat_ofNat_byte (n := c.toNat) (by omega),
      begin, whole, char rfl]
  · have first : c.toNat / 64 % 32 = c.toNat / 64 := by omega
    simp only [List.foldl_cons, List.foldl_nil, first]
    rw [step_begin us (by omega) (start_two (by omega) (by omega)),
      step_last us (by omega) (by omega), char (by omega)]
  · have first : c.toNat / 4096 % 16 = c.toNat / 4096 := by omega
    obtain ⟨least, greatest, begun, within⟩ :=
      start_three (v := c.toNat) (by omega) (by omega) (by omega)
    simp only [List.foldl_cons, List.foldl_nil, first]
    rw [step_begin us (by omega) begun, step_middle us (by omega) within (Nat.le_refl 2),
      step_last us (by omega) (by omega), char (by omega)]
  · have first : c.toNat / 262144 % 8 = c.toNat / 262144 := by omega
    obtain ⟨least, greatest, begun, within⟩ := start_four (v := c.toNat) (by omega) (by omega)
    simp only [List.foldl_cons, List.foldl_nil, first]
    rw [step_begin us (by omega) begun, step_middle us (by omega) within (by omega),
      step_middle us (by omega) (by omega) (Nat.le_refl 2), step_last us (by omega) (by omega),
      char (by omega)]

theorem foldl_step_encodeChars (cs : List Char) (us : List (Option Char)) :
    (cs.flatMap String.utf8EncodeChar).foldl step ⟨us, none⟩ =
      ⟨(cs.map some).reverse ++ us, none⟩ := by
  induction cs generalizing us with
  | nil => rfl
  | cons c cs ih =>
    rw [List.flatMap_cons, List.foldl_append, foldl_step_encodeChar, ih]
    simp

/-- The bytes of a text are read as the text. -/
theorem decodeStrict?_encode (s : String) : decodeStrict? (encode s) = some s := by
  have read : units (encode s) = s.toList.map some := by
    rw [encode_eq, units, Reading.empty, foldl_step_encodeChars]
    simp [Reading.finish]
  simp [decodeStrict?, read, Function.comp_def]

end DebugBridge.Utf8
