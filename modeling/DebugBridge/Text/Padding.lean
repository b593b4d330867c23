/-!
# Fixed-width cells

A cell is padded with spaces to a width counted in characters, on the left or on the right. A text
that is already wider stands as it is: padding never cuts.
-/

namespace DebugBridge.Text

/-- Spaces that bring a text of `s`'s length to `width` characters. -/
def fill (width : Nat) (s : List Char) : List Char := List.replicate (width - s.length) ' '

def padLeft (width : Nat) (s : List Char) : List Char := fill width s ++ s

def padRight (width : Nat) (s : List Char) : List Char := s ++ fill width s

end DebugBridge.Text
