import AddressSync.Address.Basic

/-! Addresses as text. Of an IPv6 address the first longest run of at least two zero groups is
left out between two colons, and an IPv4-mapped one ends in its IPv4 address. -/

namespace AddressSync

def dotted (bits : BitVec 32) : String := ".".intercalate ((octets bits).map toString)

def leadingZeros : List Nat → Nat
  | 0 :: rest => leadingZeros rest + 1
  | _ => 0

def longestZeros : List Nat → Nat × Nat
  | [] => (0, 0)
  | n :: rest =>
    let here := leadingZeros (n :: rest)
    let (start, length) := longestZeros rest
    if length ≤ here then (0, here) else (start + 1, length)

def hexGroup (n : Nat) : String := String.ofList (Nat.toDigits 16 n)

def colonGroups (groups : List Nat) : String := ":".intercalate (groups.map hexGroup)

def printGroups (groups : List Nat) : String :=
  let (start, length) := longestZeros groups
  if length < 2 then colonGroups groups
  else colonGroups (groups.take start) ++ "::" ++ colonGroups (groups.drop (start + length))

def Address.print : Address → String
  | .v4 bits => dotted bits
  | .v6 bits =>
    match mapped? bits with
    | some inner => "::ffff:" ++ dotted inner
    | none => printGroups (groups bits)

instance : ToString Address := ⟨Address.print⟩

end AddressSync
