/-! JSON values as they are written. A number keeps its digits, and a string that holds an escape
for half of a surrogate pair is kept as a string without content: such a value may be skipped,
but not read. -/

namespace AddressSync.Json

/-- A number as written: its digits before and after the point as one integer, how many of them
follow the point, and the exponent. `plain` numbers have neither point nor exponent. -/
structure Number where
  negative : Bool
  digits : Nat
  places : Nat
  exponent : Int
  plain : Bool
  deriving DecidableEq, Repr

def Number.ofNat (n : Nat) : Number := ⟨false, n, 0, 0, true⟩

/-- The content of a string; none when an escape in it names no character. -/
abbrev Content := Option String

inductive Value
  | null
  | bool (b : Bool)
  | number (n : Number)
  | string (s : Content)
  | array (items : List Value)
  | object (entries : List (Content × Value))
  deriving Repr

def Value.text (s : String) : Value := .string (some s)

def Value.nat (n : Nat) : Value := .number (.ofNat n)

def Value.record (entries : List (String × Value)) : Value :=
  .object (entries.map fun (key, value) => (some key, value))

def nearestDouble (n : Nat) : Nat :=
  let shift := n.log2 - 52
  let unit := 1 <<< shift
  let units := n / unit
  let rest := 2 * (n % unit)
  let up := unit < rest || (unit = rest && units % 2 = 1)
  (if up then units + 1 else units) * unit

/-- Numbers from here on are nearer to the power of two that is no double any more. -/
def overflowBound : Nat := (1 <<< 1024) - (1 <<< 970)

def leadingDigits (n : Nat) : Nat × Nat :=
  if n < UInt64.size then (n, 0)
  else
    let (lead, dropped) := leadingDigits (n / 10)
    (lead, dropped + 1)
termination_by n
decreasing_by
  have : 0 < UInt64.size := by decide
  omega

/-- Whether a double can hold the number, which is taken for the product of its leading digits and
a power of ten, each rounded to a double. -/
def Number.isFinite (n : Number) : Bool :=
  let (lead, dropped) := leadingDigits n.digits
  let power := n.exponent - n.places + dropped
  if lead = 0 || power ≤ 0 then true
  else if 308 < power then false
  else nearestDouble lead * nearestDouble (Nat.pow 10 power.toNat) < overflowBound

/-- The deepest nesting of a value that is read; values that are skipped may nest deeper. -/
def maxDepth : Nat := 127

mutual

/-- Whether the value can be read whole within `room` levels of nesting: every string has content
and every number fits. -/
def Value.isSound (room : Nat) : Value → Bool
  | .null => true
  | .bool _ => true
  | .number n => n.isFinite
  | .string s => s.isSome
  | .array items => 0 < room && soundItems (room - 1) items
  | .object entries => 0 < room && soundEntries (room - 1) entries

def soundItems (room : Nat) : List Value → Bool
  | [] => true
  | v :: rest => v.isSound room && soundItems room rest

def soundEntries (room : Nat) : List (Content × Value) → Bool
  | [] => true
  | (key, v) :: rest => key.isSome && v.isSound room && soundEntries room rest

end

end AddressSync.Json
