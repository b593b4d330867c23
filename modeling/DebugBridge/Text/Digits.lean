/-!
# Decimal numbers

`number?` reads one or more ASCII digits, leading zeros included, and `signedNumber?` the same after
an optional sign. Nothing else is a number.
-/

namespace DebugBridge.Text

def digitValue? (base : Nat) (c : Char) : Option Nat :=
  let n := c.toNat
  let value? :=
    if 0x30 ≤ n && n ≤ 0x39 then some (n - 0x30)
    else if 0x61 ≤ n && n ≤ 0x66 then some (n - 0x61 + 10)
    else if 0x41 ≤ n && n ≤ 0x46 then some (n - 0x41 + 10)
    else none
  value?.filter (· < base)

/-- The value of a nonempty run of digits in a base. -/
def numberIn? (base : Nat) : List Char → Option Nat
  | [] => none
  | c :: s =>
    (c :: s).foldl
      (fun total? d => total?.bind fun total => (digitValue? base d).map (total * base + ·))
      (some 0)

/-- The value of a nonempty run of ASCII decimal digits. -/
def number? (s : List Char) : Option Nat := numberIn? 10 s

/-- The value of a run of digits after an optional plus sign. -/
def unsigned? : List Char → Option Nat
  | '+' :: s => number? s
  | s => number? s

/-- The value of a run of digits after an optional sign. -/
def signed? : List Char → Option Int
  | '-' :: s => (number? s).map fun n => -(n : Int)
  | s => (unsigned? s).map Int.ofNat

def hexDigits (n : Nat) : List Char := Nat.toDigits 16 n

end DebugBridge.Text
