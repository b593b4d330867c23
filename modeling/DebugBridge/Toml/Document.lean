import DebugBridge.Toml.Moment
import DebugBridge.Toml.Number
import DebugBridge.Toml.Part
import DebugBridge.Toml.Text

/-!
# Documents

A document is a sequence of lines: blank ones and comments, headers of tables, and keys with values.
Keys may be dotted; values may be nested up to a limit. The first line may be preceded by a byte
order mark. A document that is not well formed, or that defines something twice, has no tree.
-/

namespace DebugBridge.Toml

open Scan

def keyPart : Scan (List Char) := do
  match ← peek with
  | some '"' =>
    char '"'
    Text.basic
  | some '\'' =>
    char '\''
    Text.literal
  | _ => someWhile isBareKey

def spacedKeyPart : Scan (List Char) := do
  blanks
  let part ← keyPart
  blanks
  return part

/-- How deep values may be nested, and how many parts a key may have. -/
def depthLimit : Nat := 79

def key : Scan (List (List Char) × List Char) := do
  let first ← spacedKeyPart
  let rest ← many (do char '.'; spacedKeyPart)
  let parts := first :: rest
  if depthLimit < parts.length then failure
  return (parts.dropLast, parts.getLast (List.cons_ne_nil first rest))

/-- Items with a separator between two of them; `last` says whether one more separator may
follow. -/
def separated {α : Type} (item : Scan α) (last : Bool) : Scan (List α) := do
  match ← maybe item with
  | none => return []
  | some first =>
    let rest ← many (do char ','; item)
    if last then let _ ← maybe (char ',')
    return first :: rest

def arrayItem {α : Type} (value : Scan α) : Scan α := do
  gaps
  let v ← value
  gaps
  return v

def arrayRest {α : Type} (value : Scan α) : Scan (List α) := do
  let items ← separated (arrayItem value) true
  gaps
  char ']'
  return items

def bracedPair {α : Type} (value : Scan α) : Scan ((List (List Char) × List Char) × α) := do
  let k ← key
  char '='
  blanks
  let v ← value
  blanks
  return (k, v)

def bracedRest {α : Type} (value : Scan α) :
    Scan (List ((List (List Char) × List Char) × α)) := do
  let pairs ← separated (bracedPair value) false
  blanks
  char '}'
  return pairs

def entriesOf? (pairs : List ((List (List Char) × List Char) × Node)) : Option Entries :=
  pairs.foldlM (fun es pair => Entries.insert pair.1.1 pair.1.2 pair.2 es) []

def plainValue : Scan Node := do
  match ← peek with
  | some '"' | some '\'' => return .text (← Text.text)
  | some 't' =>
    word ['t', 'r', 'u', 'e']
    return .flag true
  | some 'f' =>
    word ['f', 'a', 'l', 's', 'e']
    return .flag false
  | _ => (do return .moment (← Moment.moment)) <|> Number.number

def value : Nat → Scan Node
  | 0 => plainValue
  | room + 1 => do
    match ← peek with
    | some '[' =>
      char '['
      return .array (← arrayRest (value room))
    | some '\x7b' =>
      char '\x7b'
      match entriesOf? (← bracedRest (value room)) with
      | some es => return .table .finished es
      | none => failure
    | _ => plainValue

/-- A document up to some line: all its entries, and the table that keys are now added to. -/
structure Draft where
  entries : Entries := []
  current : List (List Char) := []
  deriving Repr

def Draft.add (d : Draft) (path : List (List Char)) (key : List Char) (v : Node) : Option Draft :=
  (Entries.alter .header (fun _ es => Entries.insert path key v es)
      d.current .defined d.entries).map
    fun es => { d with entries := es }

def Draft.begin (d : Draft) (path : List (List Char)) (key : List Char) : Option Draft :=
  (Entries.define path key d.entries).map fun es => ⟨es, path ++ [key]⟩

def Draft.beginNext (d : Draft) (path : List (List Char)) (key : List Char) : Option Draft :=
  (Entries.append path key d.entries).map fun es => ⟨es, path ++ [key]⟩

/-- Go on with a draft unless it contradicts itself. -/
def accept (d? : Option Draft) : Scan Draft :=
  match d? with
  | some d => return d
  | none => failure

def header (d : Draft) : Scan Draft := do
  char '['
  if (← peek) = some '[' then
    char '['
    let (path, last) ← key
    word [']', ']']
    trailing
    accept (d.beginNext path last)
  else
    let (path, last) ← key
    char ']'
    trailing
    accept (d.begin path last)

def pair (d : Draft) : Scan Draft := do
  let (path, last) ← key
  char '='
  blanks
  let v ← value depthLimit
  trailing
  accept (d.add path last v)

def line (d : Draft) : Scan Draft := do
  blanks
  match ← peek with
  | none => return d
  | some '#' =>
    comment
    lineEnd
    return d
  | some '[' => header d
  | some '\n' | some '\r' =>
    newline
    return d
  | _ => pair d

def linesWith : Nat → Draft → List Char → Option Draft
  | _, d, [] => some d
  | 0, _, _ => none
  | fuel + 1, d, s => (line d s).bind fun (d, rest) => linesWith fuel d rest

def byteOrderMark : Char := '\uFEFF'

/-- The characters of a document without a byte order mark in front. -/
def dropMark : List Char → List Char
  | c :: s => if c = byteOrderMark then s else c :: s
  | [] => []

/-- The entries of a document. Every line takes at least one character. -/
def parse (document : String) : Option Entries :=
  let s := dropMark document.toList
  (linesWith s.length {} s).map (·.entries)

end DebugBridge.Toml
