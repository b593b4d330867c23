import DebugBridge.Text.Digits
import DebugBridge.Toml.Scan

/-!
# Dates and times in documents

A date, a time of day, or both with an optional offset from universal time. The day must exist in
its month and year; a minute may have a leap second.
-/

namespace DebugBridge.Toml.Moment

open Scan

/-- A number of exactly `n` digits between two bounds. -/
def field (n low high : Nat) : Scan Nat := fun s =>
  (DebugBridge.Text.number? (s.take n)).bind fun value =>
    if (s.take n).length = n ∧ low ≤ value ∧ value ≤ high then some (value, s.drop n) else none

def isLeap (year : Nat) : Bool := year % 4 = 0 && (year % 100 ≠ 0 || year % 400 = 0)

def monthLength (year month : Nat) : Nat :=
  if month = 2 then (if isLeap year then 29 else 28)
  else if month ∈ [4, 6, 9, 11] then 30
  else 31

def date : Scan Unit := do
  let year ← field 4 0 9999
  char '-'
  let month ← field 2 1 12
  char '-'
  let _ ← field 2 1 (monthLength year month)

def time : Scan Unit := do
  let _ ← field 2 0 23
  char ':'
  let _ ← field 2 0 59
  char ':'
  let _ ← field 2 0 60
  let _ ← maybe (do char '.'; someWhile Char.isDigit)

def offset : Scan Unit :=
  char 'Z' <|> char 'z' <|> do
    let _ ← (char '+' <|> char '-')
    let _ ← field 2 0 23
    char ':'
    let _ ← field 2 0 59

def dateTime : Scan Unit := do
  date
  let _ ← maybe do
    let _ ← (char 'T' <|> char 't' <|> char ' ')
    time
    maybe offset

def moment : Scan (List Char) := do
  let before ← get
  dateTime <|> time
  return before.take (before.length - (← get).length)

end DebugBridge.Toml.Moment
