import DebugBridge.Toml.Document
import DebugBridge.Toml.Writer

/-!
# The codec of the program

Documents are read by the grammar, and sections are written one below the other.
-/

namespace DebugBridge.Toml

def codec : Codec where
  read := parse
  write parts :=
    if parts.all (·.isWritable) then some (String.ofList (Writer.document parts)) else none

end DebugBridge.Toml
