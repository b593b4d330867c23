import DebugBridge.Text.Digits
import DebugBridge.Toml.Node
import DebugBridge.Toml.Scan

/-!
# Numbers in documents

Digits may be grouped by single underscores between two of them. A whole number is decimal with an
optional sign and no leading zero, or has a base mark and no sign, and lies in 64 bits. A number
with a fraction or an exponent must round to a finite one, unless it is negative.
-/

namespace DebugBridge.Toml.Number

open Scan

def isDigit (base : Nat) (c : Char) : Bool := (DebugBridge.Text.digitValue? base c).isSome

/-- Further digits of a number, each after at most one underscore: the digits and what follows. -/
def moreDigits (base : Nat) : List Char → List Char × List Char
  | '_' :: c :: s =>
    if isDigit base c then
      let (digits, rest) := moreDigits base s
      (c :: digits, rest)
    else ([], '_' :: c :: s)
  | c :: s =>
    if isDigit base c then
      let (digits, rest) := moreDigits base s
      (c :: digits, rest)
    else ([], c :: s)
  | [] => ([], [])

def digits (base : Nat) : Scan (List Char) := fun
  | c :: s => if isDigit base c then
      let (more, rest) := moreDigits base s
      some (c :: more, rest)
    else none
  | [] => none

/-- Grouped decimal digits without a leading zero. -/
def wholeDigits : Scan (List Char) := fun
  | '0' :: s => some (['0'], s)
  | s => digits 10 s

def sign : Scan Bool := fun
  | '-' :: s => some (true, s)
  | '+' :: s => some (false, s)
  | s => some (false, s)

def valueOf (base : Nat) (ds : List Char) : Nat := (DebugBridge.Text.numberIn? base ds).getD 0

def signed (negative : Bool) (n : Nat) : Int := if negative then -(n : Int) else n

def integer? (n : Int) : Option Node :=
  if -(integerBound : Int) ≤ n ∧ n < integerBound then some (.integer n) else none

def based : Scan Node := fun s =>
  let read (base : Nat) (s : List Char) : Option (Node × List Char) :=
    (digits base s).bind fun (ds, rest) => (integer? (valueOf base ds)).map (·, rest)
  match s with
  | '0' :: 'x' :: s => read 16 s
  | '0' :: 'o' :: s => read 8 s
  | '0' :: 'b' :: s => read 2 s
  | _ => none

def whole : Scan Node := do
  let negative ← sign
  match integer? (signed negative (valueOf 10 (← wholeDigits))) with
  | some n => return n
  | none => failure

/-- The least number that rounds to infinity is this many times two to the power 970. -/
def firstInfinite : Nat := Nat.pow 2 54 - 1

/-- Whether `mantissa` times ten to the power `exponent` rounds to a finite number. -/
def isFinite (mantissa : Nat) (exponent : Int) : Bool :=
  let size : Int := (Nat.toDigits 10 mantissa).length + exponent
  if mantissa = 0 || size < 308 then true
  else if 310 < size then false
  else if 0 ≤ exponent then mantissa * Nat.pow 10 exponent.toNat < firstInfinite * Nat.pow 2 970
  else mantissa < firstInfinite * Nat.pow 2 970 * Nat.pow 10 (-exponent).toNat

def fraction : Scan (List Char) := do
  char '.'
  digits 10

def exponent : Scan Int := do
  let _ ← (char 'e' <|> char 'E')
  let negative ← sign
  return signed negative (valueOf 10 (← digits 10))

def decimal : Scan Node := do
  let negative ← sign
  let ds ← wholeDigits
  let fraction? ← maybe fraction
  let exponent? ← maybe exponent
  if fraction?.isNone && exponent?.isNone then failure
  let fs := fraction?.getD []
  let mantissa := valueOf 10 (ds ++ fs)
  let exponent := exponent?.getD 0 - fs.length
  if negative || isFinite mantissa exponent then return .decimal negative mantissa exponent
  else failure

def named : Scan Node := do
  let negative ← sign
  (do word ['i', 'n', 'f']; return .infinity negative) <|>
    (do word ['n', 'a', 'n']; return .notANumber)

def number : Scan Node := decimal <|> named <|> based <|> whole

end DebugBridge.Toml.Number
