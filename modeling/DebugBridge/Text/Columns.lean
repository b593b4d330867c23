/-!
# Columns of a line

Columns are separated by maximal runs of separator characters: a run is one boundary however long it
is, a leading run makes column 0 empty, a trailing run makes the last column empty. `fromColumn?` is
the text from the start of a column on, `columnOffset?` the same place as a byte offset, and
`tokenAt?` reads the token that starts at a byte offset.
-/

namespace DebugBridge.Text

def byteLength : List Char → Nat
  | [] => 0
  | c :: s => c.utf8Size + byteLength s

@[simp] theorem byteLength_nil : byteLength [] = 0 := rfl

@[simp] theorem byteLength_cons (c : Char) (s : List Char) :
    byteLength (c :: s) = c.utf8Size + byteLength s := rfl

@[simp] theorem byteLength_append (s t : List Char) :
    byteLength (s ++ t) = byteLength s + byteLength t := by
  induction s with
  | nil => simp
  | cons c s ih => simp [ih, Nat.add_assoc]

/-- The token at the start of a text: everything before the first separator. -/
def token (sep : Char → Bool) (s : List Char) : List Char := s.takeWhile (!sep ·)

/-- The text after the first column and the run that ends it; nothing when no run follows. -/
def nextColumn? (sep : Char → Bool) (s : List Char) : Option (List Char) :=
  match s.dropWhile (!sep ·) with
  | [] => none
  | gap => some (gap.dropWhile sep)

/-- The text from the start of column `col` on; nothing when the text has fewer columns. -/
def fromColumn? (sep : Char → Bool) : Nat → List Char → Option (List Char)
  | 0, s => some s
  | col + 1, s => (nextColumn? sep s).bind (fromColumn? sep col)

@[simp] theorem fromColumn?_zero (sep : Char → Bool) (s : List Char) :
    fromColumn? sep 0 s = some s := rfl

@[simp] theorem fromColumn?_succ (sep : Char → Bool) (col : Nat) (s : List Char) :
    fromColumn? sep (col + 1) s = (nextColumn? sep s).bind (fromColumn? sep col) := rfl

/-- Looking up `a + b` columns is looking up `b` columns from column `a` on. -/
theorem fromColumn?_add (sep : Char → Bool) (a b : Nat) (s : List Char) :
    fromColumn? sep (a + b) s = (fromColumn? sep a s).bind (fromColumn? sep b) := by
  induction a generalizing s with
  | zero => simp
  | succ a ih =>
    rw [Nat.succ_add, fromColumn?_succ, fromColumn?_succ]
    cases nextColumn? sep s with
    | none => rfl
    | some t => exact ih t

def columnOffset? (sep : Char → Bool) (col : Nat) (s : List Char) : Option Nat :=
  (fromColumn? sep col s).map fun rest => byteLength s - byteLength rest

/-- The text after its first `n` bytes; nothing when `n` is past the end or inside a character. -/
def dropBytes? : Nat → List Char → Option (List Char)
  | 0, s => some s
  | _ + 1, [] => none
  | n + 1, c :: s => if c.utf8Size ≤ n + 1 then dropBytes? (n + 1 - c.utf8Size) s else none

/-- The token that starts at a byte offset; nothing when no character boundary is there. -/
def tokenAt? (sep : Char → Bool) (start : Nat) (s : List Char) : Option (List Char) :=
  (dropBytes? start s).map (token sep)

/-- The separators of the bridge's tables: space and tab. -/
def isGap (c : Char) : Bool := c == ' ' || c == '\t'

end DebugBridge.Text
