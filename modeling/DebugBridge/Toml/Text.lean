import DebugBridge.Text.Digits
import DebugBridge.Toml.Scan

/-!
# Texts in documents

A text stands between quotes. Double quotes allow escapes, single quotes do not; three quotes in a
row allow line ends and up to two quotes in a row inside. Each reader begins behind the opening
quotes and gives the text and what follows the closing ones.
-/

namespace DebugBridge.Toml.Text

open Scan

/-- A character that stands for itself between double quotes. -/
def isBasic (c : Char) : Bool :=
  c ≠ '"' && c ≠ '\\' && (c = '\t' || (0x20 ≤ c.toNat && c.toNat ≤ 0x7e) || isWide c)

/-- A character that stands for itself between single quotes. -/
def isLiteral (c : Char) : Bool :=
  c ≠ '\'' && (c = '\t' || (0x20 ≤ c.toNat && c.toNat ≤ 0x7e) || isWide c)

/-- The character that a letter stands for behind a backslash. -/
def escaped? : Char → Option Char
  | 'b' => some '\x08'
  | 't' => some '\t'
  | 'n' => some '\n'
  | 'f' => some '\x0c'
  | 'r' => some '\r'
  | '"' => some '"'
  | '\\' => some '\\'
  | _ => none

def scalar? (digits : List Char) : Option Char :=
  (DebugBridge.Text.numberIn? 16 digits).bind fun n =>
    if n.isValidChar then some (Char.ofNat n) else none

/-- One more character in front of a text that was read. -/
def prepend (c : Char) (r : Option (List Char × List Char)) : Option (List Char × List Char) :=
  r.map fun (text, rest) => (c :: text, rest)

def basic : List Char → Option (List Char × List Char)
  | '"' :: s => some ([], s)
  | '\\' :: 'u' :: a :: b :: c :: d :: s => do prepend (← scalar? [a, b, c, d]) (basic s)
  | '\\' :: 'U' :: a :: b :: c :: d :: e :: f :: g :: h :: s => do
    prepend (← scalar? [a, b, c, d, e, f, g, h]) (basic s)
  | '\\' :: c :: s => do prepend (← escaped? c) (basic s)
  | c :: s => if isBasic c then prepend c (basic s) else none
  | [] => none

def literal : List Char → Option (List Char × List Char)
  | '\'' :: s => some ([], s)
  | c :: s => if isLiteral c then prepend c (literal s) else none
  | [] => none

/-- A text without the blanks and line ends at its front. -/
def skipLines : List Char → List Char
  | ' ' :: s => skipLines s
  | '\t' :: s => skipLines s
  | '\n' :: s => skipLines s
  | '\r' :: '\n' :: s => skipLines s
  | s => s

theorem length_skipLines_le (s : List Char) : (skipLines s).length ≤ s.length := by
  fun_induction skipLines s <;> simp_all <;> omega

/-- What follows a backslash at the end of a line: the next text, wherever it begins. -/
def continued? (s : List Char) : Option (List Char) :=
  match s.dropWhile isBlank with
  | '\n' :: _ => some (skipLines s)
  | '\r' :: '\n' :: _ => some (skipLines s)
  | _ => none

theorem length_continued?_le {s t : List Char} (h : continued? s = some t) :
    t.length ≤ s.length := by
  unfold continued? at h
  split at h <;> simp at h <;> subst h <;> exact length_skipLines_le s

/-- A text between three double quotes. -/
def multilineBasic : List Char → Option (List Char × List Char)
  | '"' :: '"' :: '"' :: '"' :: '"' :: s => some (['"', '"'], s)
  | '"' :: '"' :: '"' :: '"' :: s => some (['"'], s)
  | '"' :: '"' :: '"' :: s => some ([], s)
  | '"' :: s => prepend '"' (multilineBasic s)
  | '\\' :: 'u' :: a :: b :: c :: d :: s => do prepend (← scalar? [a, b, c, d]) (multilineBasic s)
  | '\\' :: 'U' :: a :: b :: c :: d :: e :: f :: g :: h :: s => do
    prepend (← scalar? [a, b, c, d, e, f, g, h]) (multilineBasic s)
  | '\\' :: c :: s =>
    match escaped? c with
    | some e => prepend e (multilineBasic s)
    | none =>
      match _h : continued? (c :: s) with
      | some t => multilineBasic t
      | none => none
  | '\n' :: s => prepend '\n' (multilineBasic s)
  | '\r' :: '\n' :: s => prepend '\n' (multilineBasic s)
  | c :: s => if isBasic c then prepend c (multilineBasic s) else none
  | [] => none
termination_by s => s.length
decreasing_by
  all_goals simp_wf
  all_goals try omega
  have := length_continued?_le _h
  simp at this
  omega

/-- A text between three single quotes. -/
def multilineLiteral : List Char → Option (List Char × List Char)
  | '\'' :: '\'' :: '\'' :: '\'' :: '\'' :: s => some (['\'', '\''], s)
  | '\'' :: '\'' :: '\'' :: '\'' :: s => some (['\''], s)
  | '\'' :: '\'' :: '\'' :: s => some ([], s)
  | '\'' :: s => prepend '\'' (multilineLiteral s)
  | '\n' :: s => prepend '\n' (multilineLiteral s)
  | '\r' :: '\n' :: s => prepend '\n' (multilineLiteral s)
  | c :: s => if isLiteral c then prepend c (multilineLiteral s) else none
  | [] => none

/-- A text without the line end at its front: one right behind three opening quotes does not
count. -/
def dropFirstNewline : List Char → List Char
  | '\n' :: s => s
  | '\r' :: '\n' :: s => s
  | s => s

def text : Scan (List Char)
  | '"' :: '"' :: '"' :: s => multilineBasic (dropFirstNewline s)
  | '"' :: s => basic s
  | '\'' :: '\'' :: '\'' :: s => multilineLiteral (dropFirstNewline s)
  | '\'' :: s => literal s
  | _ => none

end DebugBridge.Toml.Text
