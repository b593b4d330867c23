/-!
# Reading pieces of a document

A reader takes a piece from the front of the characters that are left, or fails and takes nothing.
The pieces without a value are blanks, line ends and comments.
-/

namespace DebugBridge.Toml

abbrev Scan := StateT (List Char) Option

namespace Scan

def peek : Scan (Option Char) := do return (← get).head?

def char (c : Char) : Scan Unit := fun
  | [] => none
  | d :: s => if d = c then some ((), s) else none

def word (w : List Char) : Scan Unit := fun s =>
  if w.isPrefixOf s then some ((), s.drop w.length) else none

def charsWhile (p : Char → Bool) : Scan (List Char) := fun s =>
  some (s.takeWhile p, s.dropWhile p)

def someWhile (p : Char → Bool) : Scan (List Char) := do
  let cs ← charsWhile p
  if cs.isEmpty then failure else return cs

def maybe {α : Type} (p : Scan α) : Scan (Option α) := (some <$> p) <|> pure none

/-- Pieces for as long as they come; `fuel` bounds their number. -/
def manyWith {α : Type} (p : Scan α) : Nat → Scan (List α)
  | 0 => return []
  | fuel + 1 => do
    match ← maybe p with
    | none => return []
    | some a => return a :: (← manyWith p fuel)

/-- Pieces for as long as they come. Every piece takes at least one character. -/
def many {α : Type} (p : Scan α) : Scan (List α) := do manyWith p (← get).length

def isBlank (c : Char) : Bool := c = ' ' || c = '\t'

def blanks : Scan Unit := do let _ ← charsWhile isBlank

def isWide (c : Char) : Bool := 0x80 ≤ c.toNat

def isComment (c : Char) : Bool := c = '\t' || (0x20 ≤ c.toNat && c.toNat ≤ 0x7e) || isWide c

/-- The end of a line: a line feed, or a carriage return and a line feed. -/
def newline : Scan Unit := fun
  | '\n' :: s => some ((), s)
  | '\r' :: '\n' :: s => some ((), s)
  | _ => none

def comment : Scan Unit := do
  char '#'
  let _ ← charsWhile isComment

def lineEnd : Scan Unit := do
  if (← get).isEmpty then return () else newline

/-- What may stand behind a value or a header: blanks, a comment and the end of the line. -/
def trailing : Scan Unit := do
  blanks
  let _ ← maybe comment
  lineEnd

/-- A piece of what may stand between the items of an array. -/
def gap : Scan Unit := (do let _ ← someWhile isBlank) <|> newline <|> comment

/-- What may stand between the items of an array. -/
def gaps : Scan Unit := do let _ ← many gap

end Scan
end DebugBridge.Toml
