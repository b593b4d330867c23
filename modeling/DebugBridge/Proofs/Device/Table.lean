import DebugBridge.Device.Table
import DebugBridge.Proofs.Text.Lines
import DebugBridge.Text.Blank

/-!
# The printed listing can be read back

`words` is a line cut at its white space. A cell that is padded keeps its text, and between two
cells there is always a space, so the words of a row are the `fields` of its device however wide
they are; and the fields say which device it is.
-/

namespace DebugBridge

open Text

namespace Text

/-- The words of a text: what stands between its white space. -/
def words (s : List Char) : List (List Char) := (pieces isBlank s).filter (!·.isEmpty)

section words
variable {w s : List Char}

theorem visible_of_all (all : w.all (!isBlank ·) = true) : ∀ c ∈ w, isBlank c = false := by
  simpa using all

@[simp] theorem words_space (s : List Char) : words (' ' :: s) = words s := by
  rw [words, pieces_cons_cut (by decide)]
  rfl

theorem words_fill (width : Nat) (w s : List Char) : words (fill width w ++ s) = words s := by
  unfold fill
  induction width - w.length with
  | zero => rfl
  | succ n ih => rw [List.replicate_succ, List.cons_append, words_space, ih]

/-- A word ends at a white space. -/
theorem words_cons (nonempty : w ≠ []) (visible : ∀ c ∈ w, isBlank c = false) {c : Char}
    (blank : isBlank c = true) (s : List Char) : words (w ++ c :: s) = w :: words s := by
  rw [words, pieces_append_cut visible blank, List.filter_cons_of_pos (by simpa using nonempty)]
  rfl

theorem words_single (nonempty : w ≠ []) (visible : ∀ c ∈ w, isBlank c = false) :
    words w = [w] := by
  rw [words, pieces_of_uncut visible, List.filter_cons_of_pos (by simpa using nonempty)]
  rfl

/-- A cell aligned to the right is the word in it, if a space follows. -/
theorem words_padLeft (nonempty : w ≠ []) (visible : ∀ c ∈ w, isBlank c = false) (width : Nat)
    (s : List Char) : words (padLeft width w ++ ' ' :: s) = w :: words s := by
  rw [padLeft, List.append_assoc, words_fill]
  exact words_cons nonempty visible rfl s

/-- A cell aligned to the left is the word in it, if a space follows. -/
theorem words_padRight (nonempty : w ≠ []) (visible : ∀ c ∈ w, isBlank c = false) (width : Nat)
    (s : List Char) : words (padRight width w ++ ' ' :: s) = w :: words s := by
  have first : fill width w ++ ' ' :: s = ' ' :: (fill width w ++ s) := by
    rw [fill, List.append_cons, ← List.replicate_succ', List.replicate_succ, List.cons_append]
  rw [padRight, List.append_assoc, first, words_cons nonempty visible rfl,
    words_fill]

end words
end Text

namespace Device

/-- Whether every field of a device can be told apart in a row: there is a serial and a state, a
model has a name, and none of them holds white space. -/
structure Legible (d : Device) : Prop where
  serial : d.serial ≠ ""
  state : d.state ≠ ""
  model : d.model ≠ some ""
  solid : ∀ text ∈ d.serial :: d.state :: d.model.toList, ∀ c ∈ text.toList, isBlank c = false

def kind (d : Device) : String := s!"({d.attachment.label})"

def fields (d : Device) : List String :=
  (if d.selected then ["-->"] else []) ++ d.kind :: d.serial :: d.state :: d.model.toList

def ofFields? : List String → Option Device
  | first :: second :: third :: rest =>
    if first = "-->" then
      rest.head?.map fun state => ⟨third, state, rest.tail.head?, true⟩
    else some ⟨second, third, rest.head?, false⟩
  | _ => none

/-- The type is a word, and not the mark. -/
theorem kind_word (d : Device) :
    d.kind ≠ "-->" ∧ d.kind.toList ≠ [] ∧ ∀ c ∈ d.kind.toList, isBlank c = false := by
  unfold kind
  cases d.attachment <;> exact ⟨by decide, by decide, visible_of_all (by decide)⟩

/-- The fields say which device it is. -/
theorem ofFields?_fields (d : Device) : ofFields? d.fields = some d := by
  have unlike := d.kind_word.1
  obtain ⟨serial, state, model, selected⟩ := d
  cases selected <;> cases model <;> simp [fields, ofFields?, unlike]

theorem fields_injective : Function.Injective fields := fun d d' same =>
  Option.some.inj (by rw [← ofFields?_fields d, same, ofFields?_fields])

/-- A row is its cells with spaces between them. -/
theorem toList_row (d : Device) :
    d.row.toList =
      "    ".toList ++ ((if d.selected then "-->" else "   ").toList ++ ' ' ::
        (padLeft 10 d.kind.toList ++ ' ' :: ' ' ::
          (padRight 20 d.serial.toList ++ ' ' :: ' ' ::
            (padLeft 12 d.state.toList ++ ' ' :: ' ' :: (d.model.getD "").toList)))) := by
  simp [row, kind, toString]

theorem words_mark (selected : Bool) (s : List Char) :
    words ((if selected then "-->" else "   ").toList ++ ' ' :: s) =
      (if selected then ["-->".toList] else []) ++ words s := by
  cases selected with
  | false => simp
  | true => exact words_cons (by decide) (visible_of_all (by decide)) rfl s

theorem words_row {d : Device} (legible : d.Legible) :
    (words d.row.toList).map String.ofList = d.fields := by
  obtain ⟨serial, state, model, solid⟩ := legible
  have serial' : d.serial.toList ≠ [] := by simpa using serial
  have state' : d.state.toList ≠ [] := by simpa using state
  have last : (words (d.model.getD "").toList).map String.ofList = d.model.toList := by
    cases named : d.model with
    | none => rfl
    | some name =>
      have nonempty : name.toList ≠ [] := fun empty => by simp_all
      rw [Option.getD_some, words_single nonempty (solid name (by simp [named]))]
      simp
  rw [toList_row]
  simp only [String.reduceToList, List.cons_append, List.nil_append, words_space]
  rw [words_mark, words_padLeft d.kind_word.2.1 d.kind_word.2.2, words_space,
    words_padRight serial' (solid _ (by simp)), words_space,
    words_padLeft state' (solid _ (by simp)), words_space]
  unfold fields
  cases d.selected <;> simp [last]

/-- Only spaces stand between the words, so a row is one line. -/
theorem eq_space_of_mem_row {d : Device} (legible : d.Legible) {c : Char}
    (mem : c ∈ d.row.toList) (blank : isBlank c = true) : c = ' ' := by
  by_contra other
  have apart {text : List Char} (visible : ∀ c ∈ text, isBlank c = false) : c ∉ text :=
    fun inside => by simp [visible c inside] at blank
  have kind := apart d.kind_word.2.2
  have serial := apart (legible.solid d.serial (by simp))
  have state := apart (legible.solid d.state (by simp))
  have model : c ∉ (d.model.getD "").toList := by
    cases named : d.model with
    | none => simp
    | some name => exact apart (legible.solid name (by simp [named]))
  have mark : c ∉ (if d.selected then "-->" else "   ").toList := by
    cases d.selected with
    | false => simp [other]
    | true => exact apart (visible_of_all (by decide))
  have filled {width : Nat} {text : List Char} : c ∉ fill width text :=
    fun inside => other (List.eq_of_mem_replicate inside)
  rw [toList_row] at mem
  simp [padLeft, padRight, other, mark, kind, serial, state, model, filled] at mem

theorem words_table {ds : List Device} (legible : ∀ d ∈ ds, d.Legible) :
    ((table ds).map fun line => (words line.toList).map String.ofList) = ds.map fields := by
  rw [table, List.map_map]
  refine List.map_congr_left fun d mem => ?_
  rw [Function.comp_apply, words_row (legible d mem)]

end Device

/-- A printed listing can be read back: there is one line for each device, in order; its words are
the mark of a selected device, the type, the serial, the state and the model, whole and apart; and
two listings that look alike are the same. -/
theorem table_faithful :
    (∀ ds : List Device, (∀ d ∈ ds, d.Legible) →
      ((Device.table ds).map fun line => (words line.toList).map String.ofList) =
        ds.map Device.fields ∧
      ∀ line ∈ Device.table ds, ∀ c ∈ line.toList, isBlank c = true → c = ' ') ∧
    ∀ ds ds' : List Device, (∀ d ∈ ds, d.Legible) → (∀ d ∈ ds', d.Legible) →
      Device.table ds = Device.table ds' → ds = ds' := by
  refine ⟨fun ds legible => ⟨Device.words_table legible, fun line mem c => ?_⟩,
    fun ds ds' legible legible' same => ?_⟩
  · obtain ⟨d, listed, rfl⟩ := List.mem_map.mp mem
    exact Device.eq_space_of_mem_row (legible d listed)
  · have fields : ds.map Device.fields = ds'.map Device.fields := by
      rw [← Device.words_table legible, ← Device.words_table legible', same]
    have injective := List.map_injective_iff.mpr Device.fields_injective
    exact injective fields

/-- A serial and a state that are wider than their columns, and characters beyond ASCII. -/
theorem table_faithful_wide :
    let phone : Device :=
      ⟨"emulator-5554-zwölfte-Nachbildung", "unauthorized-yet", some "Größe_7", true⟩
    let tablet : Device := ⟨"10.0.0.2:5555", "device", none, false⟩
    Device.table [phone, tablet] =
        ["    --> (emulator)  emulator-5554-zwölfte-Nachbildung  unauthorized-yet  Größe_7",
          "           (tcpip)  10.0.0.2:5555               device  "] ∧
      ((Device.table [phone, tablet]).map fun line => (words line.toList).map String.ofList) =
        [["-->", "(emulator)", "emulator-5554-zwölfte-Nachbildung", "unauthorized-yet", "Größe_7"],
          ["(tcpip)", "10.0.0.2:5555", "device"]] ∧
      Device.table [tablet, phone] ≠ Device.table [phone, tablet] := by
  intro phone tablet
  have legible : ∀ d ∈ [phone, tablet], d.Legible := by
    simp only [List.forall_mem_cons, List.not_mem_nil, false_imp_iff, implies_true, and_true]
    have solid (texts : List String) (all : texts.all (·.toList.all (!isBlank ·)) = true) :
        ∀ text ∈ texts, ∀ c ∈ text.toList, isBlank c = false :=
      fun text mem => visible_of_all (List.all_eq_true.mp all text mem)
    exact ⟨⟨by decide, by decide, by decide, solid _ (by decide)⟩,
      by decide, by decide, by decide, solid _ (by decide)⟩
  refine ⟨by decide, (table_faithful.1 _ legible).1.trans (by decide), fun same => ?_⟩
  have swapped := table_faithful.2 _ _ (by simpa [and_comm] using legible) legible same
  exact absurd swapped (by decide)

end DebugBridge
