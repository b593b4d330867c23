import DebugBridge.Toml.Node

/-!
# Sections and codecs

A program hands over sections, each with its settings in order, and gets back the tree of a
document. How documents look is left to a codec. What is relied on is that it recovers what was
written, whatever the texts are, and that it refuses the numbers that no document can hold.
-/

namespace DebugBridge.Toml

inductive Value where
  | text (s : String)
  | flag (b : Bool)
  | number (n : Nat)
  deriving DecidableEq, Repr

namespace Value

def node : Value → Node
  | .text s => .text s.toList
  | .flag b => .flag b
  | .number n => .integer n

def isWritable : Value → Bool
  | .number n => n < integerBound
  | _ => true

end Value

structure Setting where
  key : String
  value : Value
  deriving DecidableEq, Repr

def Setting.entry (s : Setting) : List Char × Node := (s.key.toList, s.value.node)

/-- A section with its settings in order. -/
structure Part where
  name : String
  settings : List Setting
  deriving DecidableEq, Repr

namespace Part

def table (p : Part) : Node := .table .defined (p.settings.map Setting.entry)

def entry (p : Part) : List Char × Node := (p.name.toList, p.table)

def isWritable (p : Part) : Bool := p.settings.all (·.value.isWritable)

end Part

def isBareKey (c : Char) : Bool := c.isAlphanum || c = '_' || c = '-'

def IsBare (name : String) : Prop :=
  name.toList ≠ [] ∧ ∀ c ∈ name.toList, isBareKey c = true

instance (name : String) : Decidable (IsBare name) :=
  @instDecidableAnd _ _ inferInstance (List.decidableBAll _ name.toList)

/-- The settings of a section have different names, and none of them needs quotes. -/
structure Part.WellNamed (p : Part) : Prop where
  name : IsBare p.name
  keys : ∀ s ∈ p.settings, IsBare s.key
  distinct : (p.settings.map (·.key)).Nodup

structure WellNamed (parts : List Part) : Prop where
  each : ∀ p ∈ parts, p.WellNamed
  distinct : (parts.map (·.name)).Nodup

/-- How documents are read and written. -/
structure Codec where
  read : String → Option Entries
  write : List Part → Option String

/-- What is written is read again as it was, and a number that is too large is not written. -/
structure Codec.Faithful (codec : Codec) : Prop where
  recovers : ∀ parts, WellNamed parts → parts.all (·.isWritable) = true →
    ∃ document, codec.write parts = some document ∧
      codec.read document = some (parts.map Part.entry)
  refuses : ∀ parts, WellNamed parts → parts.all (·.isWritable) = false →
    codec.write parts = none

end DebugBridge.Toml
