import DebugBridge.Text.Digits
import DebugBridge.Text.Printable

/-!
# Quoted texts in diagnostics

A text in a diagnostic stands between double quotes, with a backslash before quotes and backslashes,
the short forms of NUL, tab, line feed and carriage return, and the scalar value of every other
character that cannot be seen on its own.
-/

namespace DebugBridge.Text

/-- The written form of one character between double quotes. -/
def quotedChar (c : Char) : List Char :=
  if c = '\x00' then ['\\', '0']
  else if c = '\t' then ['\\', 't']
  else if c = '\n' then ['\\', 'n']
  else if c = '\r' then ['\\', 'r']
  else if c = '"' then ['\\', '"']
  else if c = '\\' then ['\\', '\\']
  else if isShown c then [c]
  else ['\\', 'u', '\x7b'] ++ hexDigits c.toNat ++ ['\x7d']

def quoted (s : String) : String :=
  String.ofList ('"' :: s.toList.flatMap quotedChar ++ ['"'])

end DebugBridge.Text
