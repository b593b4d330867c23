/-!
# Reading UTF-8

Bytes are read one at a time by a small machine. Each byte either continues the character that was
begun or begins a new one; a character that cannot be continued is one fault, and the byte that
broke it is read afresh, so a maximal prefix of a character counts as a single fault. `decode` puts
the replacement character for each fault, and `decodeStrict?` refuses any.
-/

namespace DebugBridge.Utf8

/-- A character begun by earlier bytes: `left` more bytes are due, the next of them between `low`
and `high`, and `value` holds the bits so far. -/
structure Pending where
  value : Nat
  left : Nat
  low : Nat
  high : Nat
  deriving Repr, DecidableEq

/-- What the bytes read so far are: the finished units, newest first (a fault is `none`), and a
character that is still open. -/
structure Reading where
  units : List (Option Char)
  pending : Option Pending
  deriving Repr, DecidableEq

/-- What a byte that begins a character begins: a whole character, an open one, or a fault. The
bounds on the second byte exclude overlong forms, surrogates and values past U+10FFFF. -/
inductive Start where
  | whole (c : Char)
  | opened (p : Pending)
  | fault
  deriving Repr, DecidableEq

def start (b : Nat) : Start :=
  if b < 0x80 then .whole (Char.ofNat b)
  else if b < 0xc2 then .fault
  else if b < 0xe0 then .opened ⟨b - 0xc0, 1, 0x80, 0xbf⟩
  else if b = 0xe0 then .opened ⟨0, 2, 0xa0, 0xbf⟩
  else if b = 0xed then .opened ⟨0xd, 2, 0x80, 0x9f⟩
  else if b < 0xf0 then .opened ⟨b - 0xe0, 2, 0x80, 0xbf⟩
  else if b = 0xf0 then .opened ⟨0, 3, 0x90, 0xbf⟩
  else if b < 0xf4 then .opened ⟨b - 0xf0, 3, 0x80, 0xbf⟩
  else if b = 0xf4 then .opened ⟨4, 3, 0x80, 0x8f⟩
  else .fault

def begin (units : List (Option Char)) (b : Nat) : Reading :=
  match start b with
  | .whole c => ⟨some c :: units, none⟩
  | .opened p => ⟨units, some p⟩
  | .fault => ⟨none :: units, none⟩

def step (r : Reading) (byte : UInt8) : Reading :=
  let b := byte.toNat
  match r.pending with
  | none => begin r.units b
  | some p =>
    if p.low ≤ b ∧ b ≤ p.high then
      let value := p.value * 64 + (b - 0x80)
      if p.left ≤ 1 then ⟨some (Char.ofNat value) :: r.units, none⟩
      else ⟨r.units, some ⟨value, p.left - 1, 0x80, 0xbf⟩⟩
    else begin (none :: r.units) b

def Reading.empty : Reading := ⟨[], none⟩

/-- The units of a finished reading in order; a character left open is a fault. -/
def Reading.finish (r : Reading) : List (Option Char) :=
  (match r.pending with
    | none => r.units
    | some _ => none :: r.units).reverse

/-- Characters and faults of a byte sequence, in order. -/
def units (bytes : List UInt8) : List (Option Char) := (bytes.foldl step Reading.empty).finish

/-- The text of a byte sequence, with U+FFFD for each fault. -/
def decode (bytes : List UInt8) : String :=
  String.ofList ((units bytes).map (·.getD '\uFFFD'))

/-- The text of a byte sequence that is UTF-8 throughout. -/
def decodeStrict? (bytes : List UInt8) : Option String :=
  let us := units bytes
  if us.all Option.isSome then some (String.ofList (us.map (·.getD '\uFFFD'))) else none

def encode (s : String) : List UInt8 := s.toUTF8.toList

example : decode [0x61, 0xe2, 0x82, 0x62, 0xff, 0xf0, 0x9f] = "a\uFFFDb\uFFFD\uFFFD" := by
  decide +kernel

end DebugBridge.Utf8
