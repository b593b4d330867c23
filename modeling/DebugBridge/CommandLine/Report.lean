import DebugBridge.CommandLine.Failure
import DebugBridge.Text.Lines
import DebugBridge.Text.Padding

/-!
# Reports of failures

A report names the failure and then, under a heading, the causes behind it. A single cause is
indented; several are numbered. A text of several lines keeps its lines, and those of a cause stay
below each other. A cause that has no words ends the report.
-/

namespace DebugBridge.CommandLine

def textLines (text : String) : List String :=
  (Text.pieces (· == '\n') text.toList).map String.ofList

/-- The lines of a text that stands beside a label. -/
def hanging (label text : String) : List String :=
  match textLines text with
  | [] => []
  | first :: rest =>
    (label ++ first) :: rest.map (String.ofList (Text.fill label.length []) ++ ·)

def causeLabel (numbered : Bool) (n : Nat) : String :=
  if numbered then String.ofList (Text.padLeft 5 (toString n).toList) ++ ": " else "    "

def causeLines (causes : List (Option String)) : List String :=
  let said := (causes.takeWhile Option.isSome).filterMap id
  said.zipIdx.flatMap fun (text, n) => hanging (causeLabel (causes.length > 1) n) text

def Failure.report (f : Failure) : List String :=
  match f.chain.map (·.text?) with
  | [] => []
  | first :: causes =>
    textLines ("Error: " ++ first.getD "") ++
      if causes.isEmpty then [] else "" :: "Caused by:" :: causeLines causes

end DebugBridge.CommandLine
