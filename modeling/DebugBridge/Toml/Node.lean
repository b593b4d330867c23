/-!
# Documents as trees

A document is a table. How a table came about decides what may still be added to it: a table that a
header defined takes dotted keys no more, a table that was only implied may still be defined, a
table made by a dotted key takes further dotted keys only, and a table written between braces is
finished.
-/

namespace DebugBridge.Toml

/-- Whole numbers fit into 64 bits with a sign: this is one more than the greatest. -/
def integerBound : Nat := 9223372036854775808

inductive Standing where
  /-- By a header of its own; the root counts as one. -/
  | defined
  /-- By the header of a table inside it. -/
  | implied
  /-- By a dotted key. -/
  | dotted
  /-- Between braces. -/
  | finished
  deriving DecidableEq, Repr

inductive Node where
  | text (s : List Char)
  | integer (n : Int)
  /-- A number with a fraction or an exponent. -/
  | decimal (negative : Bool) (mantissa : Nat) (exponent : Int)
  | infinity (negative : Bool)
  | notANumber
  | flag (b : Bool)
  /-- A date, a time of day or both, as it was written. -/
  | moment (written : List Char)
  | array (items : List Node)
  | table (standing : Standing) (entries : List (List Char × Node))
  /-- Tables that were appended one by one. -/
  | tables (items : List (List (List Char × Node)))
  deriving Repr

/-- The keys and values of a table, in the order in which they were written. -/
abbrev Entries := List (List Char × Node)

namespace Entries

def find? (key : List Char) : Entries → Option Node
  | [] => none
  | (k, v) :: rest => if k = key then some v else find? key rest

def replace (key : List Char) (v : Node) : Entries → Entries
  | [] => []
  | (k, old) :: rest => if k = key then (k, v) :: rest else (k, old) :: replace key v rest

/-- How one gets from table to table on the way to the place of a change. -/
inductive Way where
  /-- Along a header. -/
  | header
  /-- Along a dotted key. -/
  | key
  deriving DecidableEq, Repr

def Way.creates : Way → Standing
  | .header => .implied
  | .key => .dotted

def Way.enters : Way → Standing → Bool
  | .header, .finished => false
  | .header, _ => true
  | .key, .implied => true
  | .key, .dotted => true
  | .key, _ => false

/-- Make a change in the table at the end of a path; the change also gets the table's standing.
Tables that are missing on the way are made, and of appended tables the last one is meant. -/
def alter (way : Way) (change : Standing → Entries → Option Entries) :
    List (List Char) → Standing → Entries → Option Entries
  | [], standing, es => change standing es
  | k :: path, _, es =>
    match find? k es with
    | none =>
      (alter way change path way.creates []).map fun inner => es ++ [(k, .table way.creates inner)]
    | some (.table standing inner) =>
      if way.enters standing then
        (alter way change path standing inner).map fun inner =>
          replace k (.table standing inner) es
      else none
    | some (.tables items) =>
      match items.getLast? with
      | none => none
      | some last =>
        (alter way change path .defined last).map fun last =>
          replace k (.tables (items.dropLast ++ [last])) es
    | some _ => none

/-- Add a value under a dotted key: `path` leads to the table and `key` is new there. -/
def insert (path : List (List Char)) (key : List Char) (v : Node) (es : Entries) : Option Entries :=
  alter .key
    (fun standing inner =>
      if (standing == .dotted) == path.isEmpty then none
      else if (find? key inner).isSome then none
      else some (inner ++ [(key, v)]))
    path .defined es

/-- Define the table of a header, or take up again one that was only implied. -/
def define (path : List (List Char)) (key : List Char) (es : Entries) : Option Entries :=
  alter .header
    (fun _ inner => match find? key inner with
      | none => some (inner ++ [(key, .table .defined [])])
      | some (.table .implied entries) => some (replace key (.table .defined entries) inner)
      | some _ => none)
    path .defined es

def append (path : List (List Char)) (key : List Char) (es : Entries) : Option Entries :=
  alter .header
    (fun _ inner => match find? key inner with
      | none => some (inner ++ [(key, .tables [[]])])
      | some (.tables items) => some (replace key (.tables (items ++ [[]])) inner)
      | some _ => none)
    path .defined es

end Entries
end DebugBridge.Toml
