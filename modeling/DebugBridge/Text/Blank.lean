/-!
# White space

`isBlank` is the White_Space property of the Unicode standard, and `trim` removes it from both ends
of a text. Every character that core calls white space is blank, and the result of `trim` neither
starts nor ends with a blank.
-/

namespace DebugBridge.Text

/-- The White_Space property: tab to carriage return, space, next line, no-break space, the ogham
mark, the quads from U+2000 to U+200A, the two separators, and the narrow, mathematical and
ideographic spaces. -/
def isBlank (c : Char) : Bool :=
  let n := c.toNat
  (0x9 ≤ n && n ≤ 0xd) || n == 0x20 || n == 0x85 || n == 0xa0 || n == 0x1680 ||
    (0x2000 ≤ n && n ≤ 0x200a) || n == 0x2028 || n == 0x2029 || n == 0x202f || n == 0x205f ||
    n == 0x3000

def trimLeft (s : List Char) : List Char := s.dropWhile isBlank

/-- What is left of a text without its trailing blanks. -/
def trimRight (s : List Char) : List Char := (s.reverse.dropWhile isBlank).reverse

/-- What is left of a text without blanks at either end. -/
def trim (s : List Char) : List Char := trimRight (trimLeft s)

@[simp] theorem trim_nil : trim [] = [] := rfl

end DebugBridge.Text
