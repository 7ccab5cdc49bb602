/-! Reading bytes as text. Nothing is refused: each longest start of a character that breaks off
becomes one replacement character, and so does each byte that starts none. -/

namespace AddressSync.Text

def replacement : Char := '\uFFFD'

/-- What the first byte of a character asks for: how many bytes follow, the bits it gives, and the
range in which the next byte must lie. -/
def lead? (b : Nat) : Option (Nat × Nat × Nat × Nat) :=
  if 0xC2 ≤ b ∧ b ≤ 0xDF then some (1, b - 0xC0, 0x80, 0xBF)
  else if b = 0xE0 then some (2, 0, 0xA0, 0xBF)
  else if b = 0xED then some (2, 0xD, 0x80, 0x9F)
  else if 0xE1 ≤ b ∧ b ≤ 0xEF then some (2, b - 0xE0, 0x80, 0xBF)
  else if b = 0xF0 then some (3, 0, 0x90, 0xBF)
  else if 0xF1 ≤ b ∧ b ≤ 0xF3 then some (3, b - 0xF0, 0x80, 0xBF)
  else if b = 0xF4 then some (3, 4, 0x80, 0x8F)
  else none

structure Pending where
  left : Nat
  bits : Nat
  low : Nat
  high : Nat

def beginChar (b : UInt8) : List Char × Option Pending :=
  let n := b.toNat
  if n < 0x80 then ([Char.ofNat n], none)
  else match lead? n with
    | some (left, bits, low, high) => ([], some ⟨left, bits, low, high⟩)
    | none => ([replacement], none)

def utf8Step (pending : Option Pending) (b : UInt8) : List Char × Option Pending :=
  match pending with
  | none => beginChar b
  | some p =>
    let n := b.toNat
    if p.low ≤ n ∧ n ≤ p.high then
      let bits := 64 * p.bits + (n - 0x80)
      if p.left = 1 then ([Char.ofNat bits], none) else ([], some ⟨p.left - 1, bits, 0x80, 0xBF⟩)
    else
      let (chars, pending) := beginChar b
      (replacement :: chars, pending)

def decodeUtf8From (pending : Option Pending) : List UInt8 → List Char
  | [] => if pending.isSome then [replacement] else []
  | b :: rest =>
    let (chars, pending) := utf8Step pending b
    chars ++ decodeUtf8From pending rest

def decodeUtf8 (bytes : List UInt8) : List Char := decodeUtf8From none bytes

def units (bigEndian : Bool) : List UInt8 → List Nat × Bool
  | a :: b :: rest =>
    let (more, odd) := units bigEndian rest
    ((if bigEndian then 256 * a.toNat + b.toNat else 256 * b.toNat + a.toNat) :: more, odd)
  | rest => ([], !rest.isEmpty)

def isLeading (u : Nat) : Bool := 0xD800 ≤ u && u ≤ 0xDBFF

def isTrailing (u : Nat) : Bool := 0xDC00 ≤ u && u ≤ 0xDFFF

def decodeUnits : List Nat → List Char
  | [] => []
  | [u] => [if isLeading u || isTrailing u then replacement else Char.ofNat u]
  | u :: v :: rest =>
    if isLeading u && isTrailing v then
      Char.ofNat (0x10000 + (u - 0xD800) * 0x400 + (v - 0xDC00)) :: decodeUnits rest
    else
      (if isLeading u || isTrailing u then replacement else Char.ofNat u) :: decodeUnits (v :: rest)

def decodeUtf16 (bigEndian : Bool) (bytes : List UInt8) : List Char :=
  let (found, odd) := units bigEndian bytes
  decodeUnits found ++ if odd then [replacement] else []

end AddressSync.Text
