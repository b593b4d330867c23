import DebugBridge.Text.Digits
import DebugBridge.Toml.Part

/-!
# Writing sections

A text is written between the simplest quotes that show it as it is: double ones if nothing in it
has to be escaped, single ones if it holds none, three of either kind otherwise; only when none of
these will do are characters escaped.
-/

namespace DebugBridge.Toml.Writer

/-- A character that must be escaped between double quotes of either kind. -/
def isControl (c : Char) : Bool :=
  c ≠ '\t' && c ≠ '\n' && (c.toNat < 0x20 || c = '\x7f')

def longestRun (c : Char) (s : List Char) : Nat :=
  (s.foldl (fun (best, run) d => if d = c then (max best (run + 1), run + 1) else (best, 0))
    (0, 0)).1

inductive Style where
  | basic
  | literal
  | multilineBasic
  | multilineLiteral
  deriving DecidableEq, Repr

/-- The style of a text: the first that shows it without escapes, or else one that escapes. -/
def style (s : List Char) : Style :=
  let hasControl := s.any isControl
  let hasBackslash := s.contains '\\'
  let hasNewline := s.contains '\n'
  let double := longestRun '"' s
  let single := longestRun '\'' s
  if !hasControl && !hasBackslash && double = 0 && !hasNewline then .basic
  else if !hasControl && single = 0 && !hasNewline then .literal
  else if !hasControl && !hasBackslash && double ≤ 2 then .multilineBasic
  else if !hasControl && single ≤ 2 then .multilineLiteral
  else if hasNewline then .multilineBasic
  else .basic

/-- The escape of a character that cannot stand for itself between double quotes. -/
def escaped (c : Char) : List Char :=
  if c = '\x08' then ['\\', 'b']
  else if c = '\t' then ['\\', 't']
  else if c = '\n' then ['\\', 'n']
  else if c = '\x0c' then ['\\', 'f']
  else if c = '\r' then ['\\', 'r']
  else if c = '"' then ['\\', '"']
  else if c = '\\' then ['\\', '\\']
  else
    let digits := (DebugBridge.Text.hexDigits c.toNat).map Char.toUpper
    ['\\', 'u'] ++ List.replicate (4 - digits.length) '0' ++ digits

/-- Whether a character other than a quote and a line feed is escaped between double quotes. -/
def needsEscape (c : Char) : Bool := c = '\t' || c = '\\' || isControl c

/-- The characters of a text between double quotes. -/
def basicBody (s : List Char) : List Char :=
  s.flatMap fun c => if c = '"' || c = '\n' || needsEscape c then escaped c else [c]

/-- The characters of a text between three double quotes; `run` quotes stand right before. Every
third quote in a row is escaped. -/
def multilineBasicBody : Nat → List Char → List Char
  | _, [] => []
  | run, c :: s =>
    if c = '"' then
      if run < 2 then '"' :: multilineBasicBody (run + 1) s
      else escaped '"' ++ multilineBasicBody 0 s
    else (if needsEscape c then escaped c else [c]) ++ multilineBasicBody 0 s

/-- A line end in front of a text of several lines. -/
def opening (s : List Char) : List Char := if s.contains '\n' then ['\n'] else []

def text (s : List Char) : List Char :=
  match style s with
  | .basic => ['"'] ++ basicBody s ++ ['"']
  | .literal => ['\''] ++ s ++ ['\'']
  | .multilineBasic =>
    ['"', '"', '"'] ++ opening s ++ multilineBasicBody 0 s ++ ['"', '"', '"']
  | .multilineLiteral => ['\'', '\'', '\''] ++ opening s ++ s ++ ['\'', '\'', '\'']

/-- Every number is written in decimal, also one that is too large for a document. -/
def value : Value → List Char
  | .text s => text s.toList
  | .flag true => "true".toList
  | .flag false => "false".toList
  | .number n => (Nat.repr n).toList

def line (s : Setting) : List Char := s.key.toList ++ " = ".toList ++ value s.value ++ ['\n']

def header (name : String) : List Char := ['['] ++ name.toList ++ [']', '\n']

def lines (p : Part) : List Char := header p.name ++ p.settings.flatMap line

/-- Sections with a blank line between two of them. -/
def document : List Part → List Char
  | [] => []
  | p :: ps => lines p ++ ps.flatMap fun p => '\n' :: lines p

end DebugBridge.Toml.Writer
