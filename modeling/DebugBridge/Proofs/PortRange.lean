import DebugBridge.PortRange
import DebugBridge.Proofs.Text.Lines
import DebugBridge.Proofs.Text.Numeral
import Mathlib.Data.List.Range

/-!
# Which texts are port ranges

The bounds that a text gives are said by its shape: one numeral, or two around the first colon. The
reader gives the range between them, refuses bounds in the wrong order as such, and every other text
as a whole. A range runs through its ports one after another up to the last, which may be the
greatest port there is.
-/

namespace DebugBridge

open Text

def NamesPort (text : List Char) (port : Nat) : Prop := Numeral text port ∧ port ≤ 65535

theorem port?_eq_some {text : List Char} {port : { n : Nat // n ≤ maxPort }} :
    port? text = some port ↔ NamesPort text port := by
  obtain ⟨n, small⟩ := port
  simp only [port?, Option.bind_eq_some_iff, unsigned?_trim]
  constructor
  · rintro ⟨m, numeral, checked⟩
    split at checked <;> cases checked
    exact ⟨numeral, small⟩
  · rintro ⟨numeral, -⟩
    exact ⟨n, numeral, dif_pos small⟩

namespace PortRange

/-! ### Two bounds -/

section bounds
variable {first last : Nat} {h : last ≤ maxPort}

/-- Two bounds give the range between them. -/
theorem ofBounds_eq_ok {r : PortRange} :
    ofBounds first last h = .ok r ↔ r.first = first ∧ r.last = last := by
  unfold ofBounds
  split
  · rw [Except.ok.injEq]
    constructor
    · rintro rfl
      exact ⟨rfl, rfl⟩
    · rintro ⟨rfl, rfl⟩
      rfl
  · next inverted =>
    refine ⟨nofun, ?_⟩
    rintro ⟨rfl, rfl⟩
    exact absurd r.ordered inverted

theorem ofBounds_eq_inverted {p q : Nat} :
    ofBounds first last h = .error (.inverted p q) ↔ (p = first ∧ q = last) ∧ last < first := by
  unfold ofBounds
  split
  · next ordered => simp [ordered]
  · next inverted => simp [Nat.not_le.mp inverted, eq_comm]

theorem ofBounds_ne_malformed (text : String) :
    ofBounds first last h ≠ .error (.malformed text) := by
  unfold ofBounds
  split <;> simp

end bounds

/-! ### Texts -/

/-- The text gives these bounds: the same port twice, or two ports around its first colon. -/
def Bounds (text : List Char) (first last : Nat) : Prop :=
  (':' ∉ text ∧ NamesPort text first ∧ last = first) ∨
    ∃ left right, text = left ++ ':' :: right ∧ ':' ∉ left ∧
      NamesPort left first ∧ NamesPort right last

section text
variable {text : String}

theorem ofText_plain (plain : ':' ∉ text.toList) :
    ofText text = match port? text.toList with
      | some port => .ok (single port port.property)
      | none => .error (.malformed text) := if_neg plain

/-- A text with a colon is read in two parts, of which the first one ends at the first colon. -/
theorem ofText_pair {left right : List Char} (shape : text.toList = left ++ ':' :: right)
    (fresh : ':' ∉ left) :
    ofText text = match port? left, port? right with
      | some first, some last => ofBounds first last last.property
      | _, _ => .error (.malformed text) := by
  have colon : ':' ∈ text.toList := by simp [shape]
  have first : text.toList.takeWhile (· ≠ ':') = left := shape ▸ takeWhile_fresh fresh right
  have second : text.toList.dropWhile (· ≠ ':') = ':' :: right :=
    shape ▸ dropWhile_fresh fresh right
  unfold ofText
  dsimp only
  rw [if_pos colon, first, second]
  rfl

/-- A text that gives bounds is read as these bounds. -/
theorem ofText_bounds {first last : Nat} (bounds : Bounds text.toList first last) :
    ∃ h, ofText text = ofBounds first last h := by
  rcases bounds with ⟨plain, names, rfl⟩ | ⟨left, right, shape, fresh, names, names'⟩
  · have port : port? text.toList = some ⟨last, names.2⟩ := port?_eq_some.mpr names
    refine ⟨names.2, ?_⟩
    rw [ofText_plain plain, port]
    exact (ofBounds_eq_ok.mpr ⟨rfl, rfl⟩).symm
  · have port : port? left = some ⟨first, names.2⟩ := port?_eq_some.mpr names
    have port' : port? right = some ⟨last, names'.2⟩ := port?_eq_some.mpr names'
    refine ⟨names'.2, ?_⟩
    rw [ofText_pair shape fresh, port, port']

/-- A text that gives no bounds is refused as a whole. -/
theorem ofText_malformed (none : ∀ first last, ¬ Bounds text.toList first last) :
    ofText text = .error (.malformed text) := by
  by_cases colon : ':' ∈ text.toList
  · obtain ⟨left, right, shape, fresh⟩ := List.eq_append_cons_of_mem colon
    rw [ofText_pair shape fresh]
    cases first : port? left with
    | none => rfl
    | some port =>
      cases second : port? right with
      | none => rfl
      | some port' =>
        exact absurd (.inr ⟨left, right, shape, fresh, port?_eq_some.mp first,
          port?_eq_some.mp second⟩) (none port port')
  · rw [ofText_plain colon]
    cases first : port? text.toList with
    | none => rfl
    | some port =>
      exact absurd (.inl ⟨colon, port?_eq_some.mp first, rfl⟩) (none port port)

/-- Either the text gives bounds and is read as these, or it is refused as a whole. -/
theorem ofText_cases (text : String) :
    (∃ first last h, Bounds text.toList first last ∧ ofText text = ofBounds first last h) ∨
      (∀ first last, ¬ Bounds text.toList first last) ∧ ofText text = .error (.malformed text) := by
  by_cases given : ∃ first last, Bounds text.toList first last
  · obtain ⟨first, last, bounds⟩ := given
    obtain ⟨h, read⟩ := ofText_bounds bounds
    exact .inl ⟨first, last, h, bounds, read⟩
  · have none : ∀ first last, ¬ Bounds text.toList first last :=
      fun first last bounds => given ⟨first, last, bounds⟩
    exact .inr ⟨none, ofText_malformed none⟩

theorem ofText_eq_ok {r : PortRange} :
    ofText text = .ok r ↔ Bounds text.toList r.first r.last := by
  constructor
  · intro read
    rcases ofText_cases text with ⟨first, last, h, bounds, read'⟩ | ⟨-, refused⟩
    · obtain ⟨rfl, rfl⟩ := ofBounds_eq_ok.mp (read'.symm.trans read)
      exact bounds
    · cases refused.symm.trans read
  · intro bounds
    obtain ⟨h, read⟩ := ofText_bounds bounds
    exact read.trans (ofBounds_eq_ok.mpr ⟨rfl, rfl⟩)

theorem ofText_eq_inverted {first last : Nat} :
    ofText text = .error (.inverted first last) ↔
      Bounds text.toList first last ∧ last < first := by
  constructor
  · intro refused
    rcases ofText_cases text with ⟨p, q, h, bounds, read⟩ | ⟨-, whole⟩
    · obtain ⟨⟨rfl, rfl⟩, inverted⟩ := ofBounds_eq_inverted.mp (read.symm.trans refused)
      exact ⟨bounds, inverted⟩
    · cases whole.symm.trans refused
  · rintro ⟨bounds, inverted⟩
    obtain ⟨h, read⟩ := ofText_bounds bounds
    exact read.trans (ofBounds_eq_inverted.mpr ⟨⟨rfl, rfl⟩, inverted⟩)

theorem ofText_eq_malformed {whole : String} :
    ofText text = .error (.malformed whole) ↔
      whole = text ∧ ∀ first last, ¬ Bounds text.toList first last := by
  constructor
  · intro refused
    rcases ofText_cases text with ⟨p, q, h, -, read⟩ | ⟨none, refused'⟩
    · exact absurd (read.symm.trans refused) (ofBounds_ne_malformed whole)
    · cases refused'.symm.trans refused
      exact ⟨rfl, none⟩
  · rintro ⟨rfl, none⟩
    exact ofText_malformed none

/-- The decimal writing of a port names it. -/
theorem namesPort_toDigits {port : Nat} (small : port ≤ 65535) :
    NamesPort (Nat.toDigits 10 port) port := by
  obtain ⟨nonempty, decimal, value⟩ := number?_eq_some.mp (number?_toDigits port)
  exact ⟨⟨[], [], _, [], by simp, by simp, by simp, .inl rfl, nonempty, decimal, value⟩, small⟩

/-- Two written bounds are read as these bounds. -/
theorem ofText_written {first last : Nat} (small : first ≤ 65535) (bounded : last ≤ 65535) :
    ofText s!"{first}:{last}" = ofBounds first last bounded := by
  have shape : s!"{first}:{last}".toList =
      Nat.toDigits 10 first ++ ':' :: Nat.toDigits 10 last := by
    simp only [String.toList_append, Nat.toString_eq_repr, Nat.toList_repr, List.append_assoc]
    rfl
  have fresh : ':' ∉ Nat.toDigits 10 first := fun mem =>
    absurd (Nat.isDigit_of_mem_toDigits (by decide) (by decide) mem) (by decide)
  obtain ⟨_, read⟩ := ofText_bounds (.inr ⟨_, _, shape, fresh, namesPort_toDigits small,
    namesPort_toDigits bounded⟩)
  exact read

end text

/-! ### Ports -/

theorem getElem?_ports (r : PortRange) (i : Nat) :
    r.ports[i]? = if r.first + i ≤ r.last then some (r.first + i) else none := by
  have ordered := r.ordered
  have inside : i < r.size ↔ r.first + i ≤ r.last := by
    unfold size
    omega
  by_cases bound : i < r.size
  · rw [ports, List.getElem?_range' bound, Nat.one_mul, if_pos (inside.mp bound)]
  · rw [List.getElem?_eq_none (by simpa using bound), if_neg (mt inside.mpr bound)]

/-! ### The grammar and the ports -/

/-- A text is read as a range exactly if it gives bounds in order, and as the range of these bounds;
bounds out of order are refused by their values, and every other text as a whole. Bounds in order
are read back from their writing. A range goes through its ports one after another, from the first
to the last, which may be the greatest port, and through at least one. -/
theorem ofText_grammar :
    (∀ text : String,
      (∀ r, ofText text = .ok r ↔ Bounds text.toList r.first r.last) ∧
      (∀ first last, ofText text = .error (.inverted first last) ↔
        Bounds text.toList first last ∧ last < first) ∧
      ∀ whole, ofText text = .error (.malformed whole) ↔
        whole = text ∧ ∀ first last, ¬ Bounds text.toList first last) ∧
    (∀ first last (ordered : first ≤ last) (bounded : last ≤ 65535),
      ofText s!"{first}:{last}" = ofBounds first last bounded ∧
      ofBounds first last bounded = .ok ⟨first, last, ordered, bounded⟩) ∧
    ∀ r : PortRange,
      r.ports ≠ [] ∧ r.ports.length = r.size ∧ r.size = r.last - r.first + 1 ∧
      r.ports.head? = some r.first ∧ r.ports.getLast? = some r.last ∧
      r.ports.Pairwise (· < ·) ∧
      (∀ i, r.ports[i]? = if r.first + i ≤ r.last then some (r.first + i) else none) ∧
      ∀ p ∈ r.ports, p ≤ 65535 := by
  refine ⟨fun text => ⟨fun _ => ofText_eq_ok, fun _ _ => ofText_eq_inverted,
    fun _ => ofText_eq_malformed⟩, ?written, fun r => ?ports⟩
  case written =>
    intro first last ordered bounded
    exact ⟨ofText_written (ordered.trans bounded) bounded, ofBounds_eq_ok.mpr ⟨rfl, rfl⟩⟩
  case ports =>
    have ordered := r.ordered
    have length : r.ports.length = r.last - r.first + 1 := length_ports r
    refine ⟨List.ne_nil_of_length_pos (by omega), length_ports r, rfl, ?first, ?last,
      List.pairwise_lt_range', getElem?_ports r, fun p mem => ?small⟩
    case first =>
      simp [List.head?_eq_getElem?, getElem?_ports, ordered]
    case last =>
      have greatest : r.first + (r.last - r.first) = r.last := by omega
      rw [List.getLast?_eq_getElem?, length, getElem?_ports]
      simp [greatest]
    case small => exact (mem_ports.mp mem).2.trans r.bounded

/-- Behind a plus sign and zeros and between blanks the greatest port is a range of its own, read
from its text and from its writing. -/
theorem ofText_grammar_greatest :
    ofText "\u00a0+00065535 " = .ok (single 65535 (by decide)) ∧
    (65535 ≤ 65535 ∧ ofText "65535:65535" = .ok (single 65535 (by decide))) ∧
    (single 65535 (by decide)).ports = [65535] := by
  refine ⟨by cbv, ⟨Nat.le_refl _, ?_⟩, by decide⟩
  have written := ofText_grammar.2.1 65535 65535 (Nat.le_refl _) (Nat.le_refl _)
  exact written.1.trans written.2

end PortRange
end DebugBridge
