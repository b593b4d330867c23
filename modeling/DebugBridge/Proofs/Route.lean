import DebugBridge.Proofs.Text.Columns
import DebugBridge.Proofs.Text.Lines
import DebugBridge.Route
import Mathlib.Tactic.Tauto

/-!
# The address in a routing table

The reader looks for two columns of a line, one behind the other. Here a line is cut into all its
columns, and the table into all its lines: the address is the ninth column of the first line that
has one and whose third column names a wireless interface. Nothing else in the table matters.
-/

namespace DebugBridge.Route

open Text

/-- The line gives this address: its third column names a wireless interface, and the address is its
ninth column. -/
def Gives (line : List Char) (address : String) : Prop :=
  ∃ interface, (columns isGap (dropReturn line))[2]? = some interface ∧
    "wlan".toList <+: interface ∧
    (columns isGap (dropReturn line))[8]? = some address.toList ∧ address ≠ ""

/-- What is read of a line between two line feeds. -/
def given? (line : List Char) : Option String := (Line.read (dropReturn line)).address?

/-- The columns that are looked up one behind the other are the third and the ninth. -/
theorem given?_eq_some {line : List Char} {address : String} :
    given? line = some address ↔ Gives line address := by
  have third := getElem?_columns isGap 2 (dropReturn line)
  have ninth := getElem?_columns isGap 8 (dropReturn line)
  rw [fromColumn?_add isGap 2 6] at ninth
  unfold given? Gives Line.read interfaceColumn addressDistance
  rw [third, ninth]
  cases fromColumn? isGap 2 (dropReturn line) with
  | none => simp [Line.address?]
  | some fromInterface =>
    dsimp only [Option.bind_some]
    cases fromColumn? isGap 6 fromInterface with
    | none => simp [Line.address?]
    | some fromAddress =>
      simp only [Option.map_some, Option.some.injEq, exists_eq_left', List.isPrefixOf_iff_prefix]
      by_cases wireless : "wlan".toList <+: token isGap fromInterface
      · simp only [wireless, if_true, true_and, List.isEmpty_iff]
        by_cases empty : token isGap fromAddress = []
        · simp [empty, Line.address?]
        · simp only [empty, if_false, Line.address?, Option.some.injEq]
          constructor
          · rintro rfl
            exact ⟨String.toList_ofList.symm, by simpa using empty⟩
          · rintro ⟨shape, -⟩
            rw [shape, String.ofList_toList]
      · simp only [wireless, if_false, false_and, Line.address?, reduceCtorEq]

theorem given?_eq_none {line : List Char} :
    given? line = none ↔ ∀ address, ¬ Gives line address := by
  simp only [Option.eq_none_iff_forall_ne_some, ne_eq, given?_eq_some]

/-! ### Tables -/

theorem address?_eq (text : String) :
    address? text = (text.toList.splitOn '\n').findSome? given? := by
  unfold address? rows lines
  rw [pieces_eq_splitOnP, ← List.splitOn_eq_splitOnP, List.findSome?_map, List.findSome?_map]
  rfl

/-- Lines one after another, with line feeds between them. -/
def joined (ls : List (List Char)) : String := String.ofList (['\n'].intercalate ls)

theorem address?_joined {ls : List (List Char)} (feedless : ∀ line ∈ ls, '\n' ∉ line) :
    address? (joined ls) = ls.findSome? given? := by
  cases ls with
  | nil => decide
  | cons line rest =>
    rw [address?_eq, joined, String.toList_ofList, List.splitOn_intercalate '\n' feedless (by simp)]

/-- The first line that gives an address decides. -/
theorem address?_eq_some {text address : String} : address? text = some address ↔
    ∃ before line after, text.toList.splitOn '\n' = before ++ line :: after ∧
      Gives line address ∧ ∀ earlier ∈ before, ∀ other, ¬ Gives earlier other := by
  simp only [address?_eq, List.findSome?_eq_some_iff, given?_eq_some, given?_eq_none]

theorem address?_eq_none {text : String} : address? text = none ↔
    ∀ line ∈ text.toList.splitOn '\n', ∀ address, ¬ Gives line address := by
  simp only [address?_eq, List.findSome?_eq_none_iff, given?_eq_none]

/-- An address is a column of a line: it is not empty, and has neither separators nor line feeds. -/
theorem visible_of_found {text address : String} (found : address? text = some address) :
    address ≠ "" ∧ ∀ c ∈ address.toList, c ≠ ' ' ∧ c ≠ '\t' ∧ c ≠ '\n' := by
  obtain ⟨before, line, after, shape, ⟨interface, -, -, ninth, nonempty⟩, -⟩ :=
    address?_eq_some.mp found
  have piece : line ∈ pieces (· == '\n') text.toList := by
    rw [pieces_eq_splitOnP, ← List.splitOn_eq_splitOnP, shape]
    simp
  refine ⟨nonempty, fun c mem => ?_⟩
  obtain ⟨inside, visible⟩ := mem_columns (List.mem_of_getElem? ninth) c mem
  have other := uncut_of_mem_pieces piece c (mem_of_mem_dropReturn inside)
  simp only [isGap, Bool.or_eq_false_iff, beq_eq_false_iff_ne] at visible other
  exact ⟨visible.1, visible.2, other⟩

/-- Lines that give no address can be inserted and left out anywhere. -/
theorem address?_idle {before idle after : List (List Char)}
    (feedless : ∀ line ∈ before ++ idle ++ after, '\n' ∉ line)
    (without : ∀ line ∈ idle, ∀ address, ¬ Gives line address) :
    address? (joined (before ++ idle ++ after)) = address? (joined (before ++ after)) := by
  have kept : ∀ line ∈ before ++ after, '\n' ∉ line := fun line mem => feedless line (by
    simp only [List.mem_append] at mem ⊢
    tauto)
  have nothing : idle.findSome? given? = none :=
    List.findSome?_eq_none_iff.mpr fun line mem => given?_eq_none.mpr (without line mem)
  rw [address?_joined feedless, address?_joined kept]
  simp only [List.findSome?_append, nothing, Option.or_none]

/-- What follows the line that gives the address does not matter. -/
theorem address?_followed {text address : String} (found : address? text = some address)
    (rest : String) : address? (text ++ "\n" ++ rest) = some address := by
  have feed : (text ++ "\n" ++ rest).toList = text.toList ++ '\n' :: rest.toList := by simp
  unfold address? rows lines at found ⊢
  rw [feed, pieces_append _ rfl]
  simp only [List.map_append, List.findSome?_append, found, Option.some_or]

theorem address?_withReturns {text : String} (plain : '\r' ∉ text.toList) :
    address? (String.ofList (withReturns text.toList)) = address? text := by
  unfold address? rows
  rw [String.toList_ofList, lines_withReturns plain]

/-- The address in a table is the ninth column of the first line whose third column names a wireless
interface and whose ninth is not empty; without such a line there is none. So an address is not
empty and has neither separators nor line feeds; other lines can stand between the lines, anything
can follow the one that gives the address, and every line feed can follow a carriage return. -/
theorem address?_columns :
    (∀ text address, address? text = some address ↔
      ∃ before line after, text.toList.splitOn '\n' = before ++ line :: after ∧
        Gives line address ∧ ∀ earlier ∈ before, ∀ other, ¬ Gives earlier other) ∧
    (∀ text, address? text = none ↔
      ∀ line ∈ text.toList.splitOn '\n', ∀ address, ¬ Gives line address) ∧
    (∀ text address, address? text = some address →
      address ≠ "" ∧ ∀ c ∈ address.toList, c ≠ ' ' ∧ c ≠ '\t' ∧ c ≠ '\n') ∧
    (∀ before idle after : List (List Char),
      (∀ line ∈ before ++ idle ++ after, '\n' ∉ line) →
      (∀ line ∈ idle, ∀ address, ¬ Gives line address) →
      address? (joined (before ++ idle ++ after)) = address? (joined (before ++ after))) ∧
    (∀ text address rest, address? text = some address →
      address? (text ++ "\n" ++ rest) = some address) ∧
    ∀ text : String, '\r' ∉ text.toList →
      address? (String.ofList (withReturns text.toList)) = address? text :=
  ⟨fun _ _ => address?_eq_some, fun _ => address?_eq_none, fun _ _ => visible_of_found,
    fun _ _ _ => address?_idle, fun _ _ rest found => address?_followed found rest,
    fun _ => address?_withReturns⟩

/-- A wireless line without an address and a line of another interface stand in front, the columns
are cut by several blanks, and text without sense follows. -/
theorem address?_columns_second :
    let short := "default via 192.168.1.1 dev wlan0".toList
    let wired := "10.0.2.0/24 dev eth0  proto kernel  scope link  src 10.0.2.15".toList
    let wireless := "192.168.1.0/24 dev wlan0 \t proto kernel  scope link  src 192.168.1.23 ".toList
    address? (joined ([] ++ [short, wired] ++ [wireless])) = some "192.168.1.23" ∧
      address? (joined [wireless] ++ "\n" ++ "a b wlan1 c d e f g ") = some "192.168.1.23" ∧
      address? (String.ofList (withReturns (joined [wireless, wireless]).toList)) =
        address? (joined [wireless, wireless]) ∧
      ∀ c ∈ "192.168.1.23".toList, c ≠ ' ' ∧ c ≠ '\t' ∧ c ≠ '\n' := by
  intro short wired wireless
  obtain ⟨-, -, visible, inserted, followed, returned⟩ := address?_columns
  have found : address? (joined [wireless]) = some "192.168.1.23" := by decide +kernel
  have idle : ∀ line ∈ [short, wired], ∀ address, ¬ Gives line address := by
    simp only [← given?_eq_none]
    decide +kernel
  exact ⟨(inserted [] [short, wired] [wireless] (by decide +kernel) idle).trans found,
    followed _ _ _ found, returned _ (by decide +kernel), (visible _ _ found).2⟩

end DebugBridge.Route
