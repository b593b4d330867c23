import DebugBridge.Device.Listing
import DebugBridge.Proofs.Text.Lines
import Mathlib.Data.List.Forall2
import Mathlib.Data.List.TakeWhile

/-!
# Listings that were written

A page is the text of a listing as the bridge may print it: lines before the header, the header, and
then entries among lines that list nothing, with columns separated by any blanks and lines ended in
either way. Reading a page gives its entries and nothing else.
-/

namespace DebugBridge.Listing

open Text

/-- A column: not empty, without blanks and line ends. -/
def IsWord (w : List Char) : Prop := w ≠ [] ∧ ∀ c ∈ w, c ≠ ' ' ∧ c ≠ '\t' ∧ c ≠ '\r' ∧ c ≠ '\n'

def IsBlanks (g : List Char) : Prop := ∀ c ∈ g, c = ' ' ∨ c = '\t'

instance (w : List Char) : Decidable (IsWord w) :=
  @instDecidableAnd _ _ inferInstance (List.decidableBAll _ w)

instance (g : List Char) : Decidable (IsBlanks g) := List.decidableBAll _ g

/-- What is written behind the state: property tokens, each with the blanks in front of it, and the
blanks at the end of the line. -/
def tail (properties : List (List Char × List Char)) (trailing : List Char) : List Char :=
  properties.flatMap (fun p => p.1 ++ p.2) ++ trailing

/-- What is written of a device: its columns, and the blanks between and behind them. -/
structure Entry where
  serial : List Char
  gap : List Char
  state : List Char
  /-- The property tokens, each with the blanks in front of it. -/
  properties : List (List Char × List Char)
  trailing : List Char
  isWord_serial : IsWord serial
  isWord_state : IsWord state
  isBlanks_gap : gap ≠ [] ∧ IsBlanks gap
  isWord_properties : ∀ p ∈ properties, (p.1 ≠ [] ∧ IsBlanks p.1) ∧ IsWord p.2
  isBlanks_trailing : IsBlanks trailing
  not_starred : ¬ ['*'] <+: serial
  not_server : ¬ "adb server".toList <+: serial ++ (gap ++ (state ++ tail properties trailing))

namespace Entry
variable (e : Entry)

def line : List Char := e.serial ++ (e.gap ++ (e.state ++ tail e.properties e.trailing))

/-- What follows the key in the first property token that has it. -/
def model? : Option String :=
  (e.properties.find? fun p => "model:".toList.isPrefixOf p.2).map fun p =>
    String.ofList (p.2.drop "model:".toList.length)

def device : Device :=
  { serial := String.ofList e.serial, state := String.ofList e.state, model := e.model?,
    selected := false }

end Entry

/-- Lines that list nothing: empty ones, the bridge's remarks, those that begin with a blank, and a
serial alone. -/
def IsIdle (line : List Char) : Prop :=
  line = [] ∨ ['*'] <+: line ∨ "adb server".toList <+: line ∨ [' '] <+: line ∨ ['\t'] <+: line ∨
    ∃ serial gap, line = serial ++ gap ∧ (∀ c ∈ serial, c ≠ ' ' ∧ c ≠ '\t') ∧ IsBlanks gap

theorem isIdle_serial {serial : List Char} (plain : ∀ c ∈ serial, c ≠ ' ' ∧ c ≠ '\t') :
    IsIdle serial :=
  .inr (.inr (.inr (.inr (.inr ⟨serial, [], by simp, plain, by simp [IsBlanks]⟩))))

inductive Row where
  | entry (e : Entry)
  | idle (line : List Char) (isIdle : IsIdle line) (feedless : '\n' ∉ line)

def Row.line : Row → List Char
  | .entry e => e.line
  | .idle line _ _ => line

def Row.listed? : Row → Option Entry
  | .entry e => some e
  | .idle .. => none

structure Page where
  preamble : List (List Char × LineEnd)
  header : List Char × LineEnd
  rows : List (Row × LineEnd)
  /-- Whether the last line has an end. -/
  closed : Bool
  no_header : ∀ l ∈ preamble, '\n' ∉ l.1 ∧ ¬ "List of devices attached".toList <+: l.1
  is_header : '\n' ∉ header.1 ∧ "List of devices attached".toList <+: header.1

namespace Page
variable (p : Page)

def lines : List (List Char × LineEnd) :=
  p.preamble ++ p.header :: p.rows.map fun r => (r.1.line, r.2)

def text : String := String.ofList (written p.closed p.lines)

def entries : List Entry := p.rows.filterMap fun r => r.1.listed?

end Page

/-! ### Columns -/

theorem isGap_iff {c : Char} : isGap c = true ↔ c = ' ' ∨ c = '\t' := by simp [isGap]

theorem IsWord.not_isGap {w : List Char} (word : IsWord w) : ∀ c ∈ w, isGap c = false := by
  intro c mem
  have ⟨space, tab, _⟩ := word.2 c mem
  simp [isGap, space, tab]

theorem IsBlanks.isGap {g : List Char} (blanks : IsBlanks g) : ∀ c ∈ g, isGap c = true :=
  fun c mem => isGap_iff.mpr (blanks c mem)

def IsParted (s : List Char) : Prop := ∀ c, s.head? = some c → isGap c = true

theorem isParted_nil : IsParted [] := by
  intro c first
  cases first

theorem isParted_gap {g : List Char} (gap : g ≠ [] ∧ IsBlanks g) (s : List Char) :
    IsParted (g ++ s) := by
  obtain ⟨c, g, rfl⟩ := List.exists_cons_of_ne_nil gap.1
  intro d first
  obtain rfl : c = d := by simpa using first
  exact gap.2.isGap c List.mem_cons_self

theorem tail_cons (p : List Char × List Char) (ps : List (List Char × List Char))
    (trailing : List Char) : tail (p :: ps) trailing = p.1 ++ (p.2 ++ tail ps trailing) := by
  simp [tail]

theorem isParted_tail {ps : List (List Char × List Char)} {trailing : List Char}
    (gaps : ∀ p ∈ ps, p.1 ≠ [] ∧ IsBlanks p.1) (blanks : IsBlanks trailing) :
    IsParted (tail ps trailing) := by
  cases ps with
  | nil =>
    cases trailing with
    | nil => exact isParted_nil
    | cons c g => simpa [tail] using isParted_gap ⟨List.cons_ne_nil c g, blanks⟩ []
  | cons p ps =>
    rw [tail_cons]
    exact isParted_gap (gaps p List.mem_cons_self) _

theorem takeWhile_word {w s : List Char} (word : ∀ c ∈ w, isGap c = false) (parted : IsParted s) :
    (w ++ s).takeWhile (!isGap ·) = w := by
  rw [List.takeWhile_append_of_pos (by simpa using word)]
  cases s with
  | nil => simp
  | cons c s => simp [parted c rfl]

theorem dropWhile_word {w s : List Char} (word : ∀ c ∈ w, isGap c = false) (parted : IsParted s) :
    (w ++ s).dropWhile (!isGap ·) = s := by
  rw [List.dropWhile_append_of_pos (by simpa using word)]
  cases s with
  | nil => simp
  | cons c s => simp [parted c rfl]

/-- The column behind a word and the blanks after it. -/
theorem fromColumn?_one {w g s : List Char} (word : ∀ c ∈ w, isGap c = false)
    (gap : g ≠ [] ∧ IsBlanks g) (next : ∀ c, s.head? = some c → isGap c = false) :
    fromColumn? isGap 1 (w ++ (g ++ s)) = some s := by
  have behind : (g ++ s).dropWhile isGap = s := by
    rw [List.dropWhile_append_of_pos gap.2.isGap]
    cases s with
    | nil => rfl
    | cons c s => simp [next c rfl]
  have cut := dropWhile_word word (isParted_gap gap s)
  obtain ⟨c, g, rfl⟩ := List.exists_cons_of_ne_nil gap.1
  have column : nextColumn? isGap (w ++ (c :: g ++ s)) = some s := by
    unfold nextColumn?
    rw [cut]
    exact congrArg some behind
  rw [fromColumn?_succ, column]
  rfl

/-! ### Properties -/

def modelOf (property : List Char) : Option String :=
  if modelKey.isPrefixOf property then some (String.ofList (property.drop modelKey.length))
  else none

theorem model?_gap {g : List Char} (blanks : IsBlanks g) (s : List Char) :
    model? (g ++ s) = model? s := by
  induction g with
  | nil => rfl
  | cons c g ih =>
    have cut : isGap c = true := blanks.isGap c List.mem_cons_self
    have skip : modelOf [] = none := rfl
    rw [← ih fun d mem => blanks d (List.mem_cons_of_mem c mem)]
    change ((pieces isGap (c :: (g ++ s))).findSome? modelOf) = _
    rw [pieces_cons_cut cut, List.findSome?_cons, skip]
    rfl

theorem model?_word {w s : List Char} (word : ∀ c ∈ w, isGap c = false) (parted : IsParted s) :
    model? (w ++ s) = (modelOf w).or (model? s) := by
  cases s with
  | nil =>
    rw [List.append_nil]
    change ((pieces isGap w).findSome? modelOf) = _
    rw [pieces_of_uncut word]
    cases e : modelOf w <;> simp [e, model?, modelKey]
  | cons c s =>
    have cut : isGap c = true := parted c rfl
    have skip : modelOf [] = none := rfl
    change ((pieces isGap (w ++ c :: s)).findSome? modelOf) =
      (modelOf w).or ((pieces isGap (c :: s)).findSome? modelOf)
    rw [pieces_append_cut word cut, pieces_cons_cut cut]
    cases e : modelOf w <;> simp [e, skip]

/-- The model is that of the first property token that has the key. -/
theorem model?_tail {ps : List (List Char × List Char)} {trailing : List Char}
    (words : ∀ p ∈ ps, (p.1 ≠ [] ∧ IsBlanks p.1) ∧ IsWord p.2) (blanks : IsBlanks trailing) :
    model? (tail ps trailing) =
      (ps.find? fun p => "model:".toList.isPrefixOf p.2).map fun p =>
        String.ofList (p.2.drop "model:".toList.length) := by
  induction ps with
  | nil =>
    have none := model?_gap blanks []
    rw [List.append_nil] at none
    exact none
  | cons p ps ih =>
    obtain ⟨gap, word⟩ := words p List.mem_cons_self
    have later : ∀ q ∈ ps, (q.1 ≠ [] ∧ IsBlanks q.1) ∧ IsWord q.2 :=
      fun q mem => words q (List.mem_cons_of_mem p mem)
    have parted := isParted_tail (fun q mem => (later q mem).1) blanks
    rw [tail_cons, model?_gap gap.2, model?_word word.not_isGap parted, ih later, List.find?_cons]
    unfold modelOf modelKey
    cases "model:".toList.isPrefixOf p.2 <;> rfl

/-! ### Lines -/

/-- What is read of a line that is neither a remark nor without a serial. -/
theorem Line.read_eq {line : List Char} (nonempty : line ≠ []) (remark : isChatter line = false)
    (serial : token isGap line ≠ []) :
    Line.read line =
      match fromColumn? isGap 1 line with
      | none => .withoutColumns
      | some rest =>
        if (token isGap rest).isEmpty then .withoutState (String.ofList line)
        else .entry
          { serial := String.ofList (token isGap line), state := String.ofList (token isGap rest),
            model := model? (rest.drop (token isGap rest).length) } := by
  unfold Line.read
  rw [if_neg (by simpa using nonempty), if_neg (by simp [remark])]
  exact if_neg (by simpa using serial)

theorem device?_read_entry (e : Entry) : (Line.read e.line).device? = some e.device := by
  have serial := e.isWord_serial
  have parted := isParted_tail (fun p mem => (e.isWord_properties p mem).1) e.isBlanks_trailing
  have model := model?_tail e.isWord_properties e.isBlanks_trailing
  have remark : isChatter e.line = false := by
    have starred : ¬ ['*'] <+: e.line := by
      obtain ⟨c, w, shape⟩ := List.exists_cons_of_ne_nil serial.1
      have other := e.not_starred
      rw [Entry.line, shape]
      rw [shape] at other
      simpa using other
    rw [← Bool.not_eq_true]
    simpa [isChatter] using ⟨starred, e.not_server⟩
  have first : token isGap e.line = e.serial :=
    takeWhile_word serial.not_isGap (isParted_gap e.isBlanks_gap _)
  have second : fromColumn? isGap 1 e.line = some (e.state ++ tail e.properties e.trailing) := by
    refine fromColumn?_one serial.not_isGap e.isBlanks_gap ?_
    obtain ⟨c, w, shape⟩ := List.exists_cons_of_ne_nil e.isWord_state.1
    rw [shape]
    rintro d ⟨⟩
    exact e.isWord_state.not_isGap c (shape ▸ List.mem_cons_self)
  have state : token isGap (e.state ++ tail e.properties e.trailing) = e.state :=
    takeWhile_word e.isWord_state.not_isGap parted
  have nonempty : e.line ≠ [] := by simp [Entry.line, serial.1]
  rw [Line.read_eq nonempty remark (first ▸ serial.1), second]
  dsimp only
  rw [state, if_neg (by simpa using e.isWord_state.1), List.drop_left, model, first]
  rfl

/-- A word without a carriage return at its end begins what is read exactly if it begins the
line. -/
theorem prefix_iff_of_readAs {w line read : List Char} (other : w.getLast? ≠ some '\r')
    (readAs : ReadAs line read) : w <+: read ↔ w <+: line := by
  rcases readAs with rfl | rfl
  · exact Iff.rfl
  · rw [List.prefix_concat_iff]
    refine ⟨.inr, fun first => first.resolve_left ?_⟩
    rintro rfl
    simp at other

/-- An idle line stays idle without a carriage return at its end. -/
theorem IsIdle.of_readAs {line read : List Char} (idle : IsIdle line) (readAs : ReadAs line read) :
    IsIdle read := by
  rcases idle with rfl | starred | server | space | tab | ⟨serial, gap, shape, plain, blanks⟩
  · rcases readAs with rfl | shape
    · exact .inl rfl
    · simp at shape
  · exact .inr (.inl ((prefix_iff_of_readAs (by decide) readAs).mpr starred))
  · exact .inr (.inr (.inl ((prefix_iff_of_readAs (by decide) readAs).mpr server)))
  · exact .inr (.inr (.inr (.inl ((prefix_iff_of_readAs (by decide) readAs).mpr space))))
  · exact .inr (.inr (.inr (.inr (.inl ((prefix_iff_of_readAs (by decide) readAs).mpr tab)))))
  · refine .inr (.inr (.inr (.inr (.inr ?_))))
    rcases readAs with rfl | rfl
    · exact ⟨serial, gap, shape, plain, blanks⟩
    · rcases List.eq_nil_or_concat gap with rfl | ⟨gap, c, rfl⟩
      · rw [List.append_nil] at shape
        subst shape
        exact ⟨read, [], by simp, fun c mem => plain c (List.mem_append_left _ mem), blanks⟩
      · rw [List.concat_eq_append, ← List.append_assoc] at shape
        obtain ⟨rfl, last⟩ := List.append_inj' shape rfl
        obtain rfl : '\r' = c := by simpa using last
        exact absurd (blanks '\r' (by simp)) (by decide)

/-- There is no second column, or nothing in it, behind a word and blanks. -/
theorem fromColumn?_blanks {w g : List Char} (word : ∀ c ∈ w, isGap c = false)
    (blanks : IsBlanks g) :
    fromColumn? isGap 1 (w ++ g) = none ∨ fromColumn? isGap 1 (w ++ g) = some [] := by
  cases g with
  | nil =>
    left
    have none : w.dropWhile (!isGap ·) = [] := by simpa using dropWhile_word word isParted_nil
    simp [nextColumn?, none]
  | cons c g =>
    right
    simpa using fromColumn?_one (s := []) word ⟨List.cons_ne_nil c g, blanks⟩ (by simp)

theorem device?_read_idle {line : List Char} (idle : IsIdle line) :
    (Line.read line).device? = none := by
  by_cases nonempty : line = []
  · rw [nonempty]
    rfl
  cases remark : isChatter line with
  | true =>
    unfold Line.read
    rw [if_neg (by simpa using nonempty), if_pos remark]
    rfl
  | false =>
    by_cases serial : token isGap line = []
    · unfold Line.read
      rw [if_neg (by simpa using nonempty), if_neg (by simp [remark])]
      dsimp only
      rw [if_pos (by simp [serial])]
      rfl
    · -- What is left of the idle lines is a serial alone.
      have blank {c : Char} (gap : isGap c = true) : ¬ [c] <+: line := by
        rintro ⟨rest, rfl⟩
        simp [token, gap] at serial
      have ⟨starred, server⟩ : ¬ ['*'] <+: line ∧ ¬ "adb server".toList <+: line := by
        simpa only [isChatter, Bool.or_eq_false_iff, ← Bool.not_eq_true, Bool.or_eq_true,
          List.isPrefixOf_iff_prefix, not_or] using remark
      obtain ⟨w, g, rfl, plain, blanks⟩ :=
        ((((idle.resolve_left nonempty).resolve_left starred).resolve_left server).resolve_left
          (blank rfl)).resolve_left (blank rfl)
      have word : ∀ c ∈ w, isGap c = false := fun c mem => by
        simpa [isGap] using plain c mem
      rw [Line.read_eq nonempty remark serial]
      rcases fromColumn?_blanks word blanks with column | column <;> rw [column] <;> rfl

/-! ### Pages -/

/-- An entry stands on one line. -/
theorem Entry.no_lineEnd (e : Entry) : ∀ c ∈ e.line, c ≠ '\r' ∧ c ≠ '\n' := by
  have word {w : List Char} (isWord : IsWord w) : ∀ c ∈ w, c ≠ '\r' ∧ c ≠ '\n' :=
    fun c mem => (isWord.2 c mem).2.2
  have blanks {g : List Char} (isBlanks : IsBlanks g) : ∀ c ∈ g, c ≠ '\r' ∧ c ≠ '\n' := by
    intro c mem
    rcases isBlanks c mem with rfl | rfl <;> decide
  intro c mem
  simp only [Entry.line, tail, List.mem_append, List.mem_flatMap] at mem
  rcases mem with mem | mem | mem | ⟨p, listed, mem | mem⟩ | mem
  · exact word e.isWord_serial c mem
  · exact blanks e.isBlanks_gap.2 c mem
  · exact word e.isWord_state c mem
  · exact blanks (e.isWord_properties p listed).1.2 c mem
  · exact word (e.isWord_properties p listed).2 c mem
  · exact blanks e.isBlanks_trailing c mem

theorem Entry.eq_of_readAs {e : Entry} {read : List Char} (readAs : ReadAs e.line read) :
    read = e.line := by
  rcases readAs with same | shape
  · exact same
  · exact absurd rfl (e.no_lineEnd '\r' (by simp [shape])).1

theorem Row.feedless (r : Row) : '\n' ∉ r.line := by
  cases r with
  | entry e => exact fun mem => (e.no_lineEnd '\n' mem).2 rfl
  | idle line _ feedless => exact feedless

/-- What is read of a row is the device of its entry, if it is one. -/
theorem Row.device?_read {r : Row} {read : List Char} (readAs : ReadAs r.line read) :
    (Line.read read).device? = r.listed?.map Entry.device := by
  cases r with
  | entry e =>
    rw [Entry.eq_of_readAs readAs]
    exact device?_read_entry e
  | idle line isIdle _ => exact device?_read_idle (isIdle.of_readAs readAs)

/-- The rows are read one by one. -/
theorem filterMap_read {rows : List (Row × LineEnd)} {reads : List (List Char)}
    (readsAs : List.Forall₂ (fun l read => ReadAs l.1 read)
      (rows.map fun r => (r.1.line, r.2)) reads) :
    (reads.map Line.read).filterMap Line.device? =
      (rows.filterMap fun r => r.1.listed?).map Entry.device := by
  induction rows generalizing reads with
  | nil =>
    cases readsAs
    rfl
  | cons r rows ih =>
    rw [List.map_cons] at readsAs
    obtain ⟨read, reads, readAs, laterAs, rfl⟩ := List.forall₂_cons_left_iff.mp readsAs
    have later := ih laterAs
    have here := Row.device?_read readAs
    cases listed : r.1.listed? with
    | none => simpa [here, listed] using later
    | some e => simpa [here, listed] using later

/-- Reading passes over all lines up to the header. -/
theorem drop_preamble {preamble : List (List Char × LineEnd)} {heading : List Char × LineEnd}
    {later : List (List Char × LineEnd)} {reads : List (List Char)} (ending : List (List Char))
    (before : ∀ l ∈ preamble, ¬ header <+: l.1) (found : header <+: heading.1)
    (readsAs : List.Forall₂ (fun l read => ReadAs l.1 read) (preamble ++ heading :: later) reads) :
    ∃ rest, ((reads ++ ending).dropWhile (!header.isPrefixOf ·)).drop 1 = rest ++ ending ∧
      List.Forall₂ (fun l read => ReadAs l.1 read) later rest := by
  have same {line read : List Char} (readAs : ReadAs line read) :
      header.isPrefixOf read = true ↔ header <+: line :=
    List.isPrefixOf_iff_prefix.trans (prefix_iff_of_readAs (by decide) readAs)
  induction preamble generalizing reads with
  | nil =>
    obtain ⟨read, rest, readAs, restAs, rfl⟩ := List.forall₂_cons_left_iff.mp readsAs
    exact ⟨rest, by simp [(same readAs).mpr found], restAs⟩
  | cons l preamble ih =>
    obtain ⟨read, reads, readAs, laterAs, rfl⟩ := List.forall₂_cons_left_iff.mp readsAs
    obtain ⟨rest, dropped, restAs⟩ :=
      ih (fun l mem => before l (List.mem_cons_of_mem _ mem)) laterAs
    have passed : header.isPrefixOf read = false := by
      rw [← Bool.not_eq_true, same readAs]
      exact before l List.mem_cons_self
    exact ⟨rest, by simpa [passed] using dropped, restAs⟩

theorem devices_page (p : Page) : devices p.text = p.entries.map Entry.device := by
  have feedless : ∀ l ∈ p.lines, '\n' ∉ l.1 := by
    intro l mem
    rcases List.mem_append.mp mem with mem | mem
    · exact (p.no_header l mem).1
    · rcases List.mem_cons.mp mem with rfl | mem
      · exact p.is_header.1
      · obtain ⟨r, -, rfl⟩ := List.mem_map.mp mem
        exact r.1.feedless
  obtain ⟨reads, cut, readsAs⟩ := lines_written p.closed (by simp [Page.lines]) feedless
  obtain ⟨rest, dropped, restAs⟩ :=
    drop_preamble (if p.closed then [[]] else []) (fun l mem => (p.no_header l mem).2)
      p.is_header.2 readsAs
  have last : ((if p.closed then [[]] else []).map Line.read).filterMap Line.device? = [] := by
    cases p.closed <;> rfl
  unfold devices rows Page.text
  rw [String.toList_ofList, cut, dropped, List.map_append, List.filterMap_append, last,
    List.append_nil]
  exact filterMap_read restAs

theorem devices_no_header {output : String}
    (none : ∀ line ∈ pieces (· == '\n') output.toList, ¬ header <+: line) :
    devices output = [] := by
  have passed : (lines output.toList).dropWhile (!header.isPrefixOf ·) = [] := by
    rw [List.dropWhile_eq_nil_iff]
    intro read mem
    obtain ⟨line, piece, rfl⟩ := List.mem_map.mp mem
    have other := none line piece
    rw [← prefix_iff_of_readAs (by decide) (readAs_dropReturn line)] at other
    rwa [Bool.not_eq_true', ← Bool.not_eq_true, List.isPrefixOf_iff_prefix]
  simp [devices, rows, passed]

/-- Reading a listing gives one unselected device for each of its entries, in their order, and
nothing else; without a header it gives nothing. -/
theorem devices_recovered :
    (∀ p : Page, devices p.text = p.entries.map Entry.device) ∧
      ∀ output, (∀ line ∈ pieces (· == '\n') output.toList,
        ¬ "List of devices attached".toList <+: line) → devices output = [] :=
  ⟨devices_page, fun _ none => devices_no_header none⟩

/-- Chatter in front, a serial alone between the entries, a second model, and both line ends. -/
theorem devices_recovered_chatter :
    ∃ p : Page,
      p.text = "* daemon started\nList of devices attached\r\n" ++
        "0123 \tdevice  model:Pixel model:X \r\nlonely\n10.0.0.5:5555\toffline" ∧
      devices p.text =
        [⟨"0123", "device", some "Pixel", false⟩, ⟨"10.0.0.5:5555", "offline", none, false⟩] := by
  let first : Entry :=
    { serial := "0123".toList, gap := " \t".toList, state := "device".toList,
      properties := [("  ".toList, "model:Pixel".toList), (" ".toList, "model:X".toList)],
      trailing := " ".toList, isWord_serial := by decide, isWord_state := by decide,
      isBlanks_gap := by decide, isWord_properties := by decide, isBlanks_trailing := by decide,
      not_starred := by decide, not_server := by decide }
  let second : Entry :=
    { serial := "10.0.0.5:5555".toList, gap := "\t".toList, state := "offline".toList,
      properties := [], trailing := [], isWord_serial := by decide, isWord_state := by decide,
      isBlanks_gap := by decide, isWord_properties := by decide, isBlanks_trailing := by decide,
      not_starred := by decide, not_server := by decide }
  let page : Page :=
    { preamble := [("* daemon started".toList, .feed)],
      header := ("List of devices attached".toList, .returnFeed),
      rows := [(.entry first, .returnFeed),
        (.idle "lonely".toList (isIdle_serial (by simp)) (by decide), .feed),
        (.entry second, .feed)],
      closed := false, no_header := by decide, is_header := by decide }
  exact ⟨page, by decide +kernel, (devices_recovered.1 page).trans (by decide +kernel)⟩

end DebugBridge.Listing
