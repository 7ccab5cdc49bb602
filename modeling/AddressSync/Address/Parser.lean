import AddressSync.Address.Basic
import AddressSync.Text.Blank

/-! Reading addresses. IPv4 is four decimal octets of at most three digits and without leading
zeros. IPv6 is eight groups of one to four hexadecimal digits, where one double colon may stand
for at least one group and an IPv4 address for the last two. -/

namespace AddressSync

open Text

def decimal? (c : Char) : Option Nat := if c.isDigit then some (c.toNat - '0'.toNat) else none

def hexadecimal? (c : Char) : Option Nat :=
  if c.isDigit then some (c.toNat - '0'.toNat)
  else if 'a' ≤ c ∧ c ≤ 'f' then some (c.toNat - 'a'.toNat + 10)
  else if 'A' ≤ c ∧ c ≤ 'F' then some (c.toNat - 'A'.toNat + 10)
  else none

def digits? (digit? : Char → Option Nat) : List Char → Option (List Nat)
  | [] => some []
  | c :: rest => do
    let d ← digit? c
    return d :: (← digits? digit? rest)

def octet? (cs : List Char) : Option Nat := do
  let digits ← digits? decimal? cs
  let value := ofDigits 10 digits
  if digits = [] ∨ 3 < digits.length ∨ (digits.head? = some 0 ∧ 1 < digits.length) ∨ 255 < value
  then none else some value

def eachPiece? (read : List Char → Option Nat) : List (List Char) → Option (List Nat)
  | [] => some []
  | piece :: rest => do
    let n ← read piece
    return n :: (← eachPiece? read rest)

def octets? (cs : List Char) : Option (List Nat) := do
  let octets ← eachPiece? octet? (pieces '.' cs)
  if octets.length = 4 then some octets else none

def group? (cs : List Char) : Option Nat := do
  let digits ← digits? hexadecimal? cs
  if digits = [] ∨ 4 < digits.length then none else some (ofDigits 16 digits)

def plainGroups? (cs : List Char) : Option (List Nat) :=
  if cs = [] then some [] else eachPiece? group? (pieces ':' cs)

def embedded? (cs : List Char) : Option (List Nat) := do
  let octets ← octets? cs
  return [ofDigits 256 (octets.take 2), ofDigits 256 (octets.drop 2)]

def groupsOfPieces? : List (List Char) → Option (List Nat)
  | [] => some []
  | [last] => (embedded? last).or ((group? last).map fun n => [n])
  | piece :: rest => do
    let n ← group? piece
    return n :: (← groupsOfPieces? rest)

/-- Groups of which the last two may be an IPv4 address; no text is no group. -/
def endingGroups? (cs : List Char) : Option (List Nat) :=
  if cs = [] then some [] else groupsOfPieces? (pieces ':' cs)

def doubleColon? : List Char → Option (List Char × List Char)
  | [] => none
  | c :: rest =>
    match c, rest with
    | ':', ':' :: after => some ([], after)
    | c, rest => (doubleColon? rest).map fun (before, after) => (c :: before, after)

def groups? (cs : List Char) : Option (List Nat) :=
  match doubleColon? cs with
  | none => do
    let groups ← endingGroups? cs
    if groups.length = 8 then some groups else none
  | some (before, after) => do
    let head ← plainGroups? before
    let tail ← endingGroups? after
    if head.length + tail.length ≤ 7 then
      some (head ++ List.replicate (8 - (head.length + tail.length)) 0 ++ tail)
    else none

def Address.parseChars? (cs : List Char) : Option Address :=
  ((octets? cs).map Address.ofOctets).or ((groups? cs).map Address.ofGroups)

def Address.parse? (s : String) : Option Address := parseChars? s.toList

end AddressSync
