/-!
# Pieces of a text

`pieces` cuts a text at every character of a class; `lines` cuts at line feeds and drops one
carriage return before each. `firstToken` and `firstLine` are the parts of a command's answer before
its first white space and before its first line end. A text with no cut is one piece, and pieces are
never lost: there is one more of them than there are cuts.
-/

namespace DebugBridge.Text

/-- The parts of `s` between the characters that satisfy `cut`, empty parts included. -/
def pieces (cut : Char → Bool) (s : List Char) : List (List Char) :=
  s.foldr
    (fun c parts =>
      if cut c then [] :: parts
      else match parts with
        | [] => [[c]]
        | part :: rest => (c :: part) :: rest)
    [[]]

@[simp] theorem pieces_nil (cut : Char → Bool) : pieces cut [] = [[]] := rfl

theorem pieces_cons_cut {cut : Char → Bool} {c : Char} (h : cut c = true) (s : List Char) :
    pieces cut (c :: s) = [] :: pieces cut s := by
  simp [pieces, h]

theorem pieces_ne_nil (cut : Char → Bool) (s : List Char) : pieces cut s ≠ [] := by
  cases s with
  | nil => simp [pieces]
  | cons c s =>
    simp only [pieces, List.foldr_cons]
    split
    · simp
    · split <;> simp

def dropReturn (line : List Char) : List Char :=
  if line.getLast? = some '\r' then line.dropLast else line

/-- The lines of a text: cut at line feeds, each without one trailing carriage return. -/
def lines (s : List Char) : List (List Char) := (pieces (· == '\n') s).map dropReturn

/-- The characters that end the single value in a command's answer. -/
def endsToken (c : Char) : Bool := c == ' ' || c == '\t' || c == '\r' || c == '\n'

/-- The characters that end the first line of a command's answer. -/
def endsLine (c : Char) : Bool := c == '\r' || c == '\n'

/-- The text before the first space, tab, carriage return or line feed. -/
def firstToken (s : String) : String := String.ofList (s.toList.takeWhile (!endsToken ·))

/-- The text before the first carriage return or line feed. -/
def firstLine (s : String) : String := String.ofList (s.toList.takeWhile (!endsLine ·))

end DebugBridge.Text
