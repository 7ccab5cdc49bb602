/-! Internet addresses of the two families, as words of 32 and 128 bits. -/

namespace AddressSync

inductive Family
  | v4
  | v6
  deriving DecidableEq, Repr

inductive Address
  | v4 (bits : BitVec 32)
  | v6 (bits : BitVec 128)
  deriving DecidableEq, Repr

def Family.all : List Family := [.v4, .v6]

def Family.width : Family → Nat | .v4 => 32 | .v6 => 128

/-- The length of the block under which one detected address is listed. -/
def Family.listedLength : Family → Nat | .v4 => 32 | .v6 => 64

def Family.recordType : Family → String | .v4 => "A" | .v6 => "AAAA"

def Family.name : Family → String | .v4 => "IPv4" | .v6 => "IPv6"

def Family.tag : Family → String | .v4 => "v4" | .v6 => "v6"

def Family.ofTag? : String → Option Family
  | "v4" => some .v4
  | "v6" => some .v6
  | _ => none

def Address.family : Address → Family | .v4 _ => .v4 | .v6 _ => .v6

/-- The sixteen-bit group at a place of an IPv6 address, counted from the left. -/
def groupAt (bits : BitVec 128) (place : Nat) : Nat := (bits.toNat >>> (16 * (7 - place))) % 0x10000

def groups (bits : BitVec 128) : List Nat := (List.range 8).map (groupAt bits)

def octetAt (bits : BitVec 32) (place : Nat) : Nat := (bits.toNat >>> (8 * (3 - place))) % 0x100

def octets (bits : BitVec 32) : List Nat := (List.range 4).map (octetAt bits)

def ofDigits (base : Nat) (digits : List Nat) : Nat := digits.foldl (fun n d => base * n + d) 0

def Address.ofOctets (octets : List Nat) : Address := .v4 (.ofNat 32 (ofDigits 0x100 octets))

def Address.ofGroups (groups : List Nat) : Address := .v6 (.ofNat 128 (ofDigits 0x10000 groups))

def mapped? (bits : BitVec 128) : Option (BitVec 32) :=
  if bits.toNat >>> 32 = 0xFFFF then some (bits.setWidth 32) else none

def Address.isUnspecified : Address → Bool
  | .v4 bits => bits = 0
  | .v6 bits => bits = 0

def Address.isLoopback : Address → Bool
  | .v4 bits => octetAt bits 0 = 127
  | .v6 bits => bits = 1

def Address.isMulticast : Address → Bool
  | .v4 bits => octetAt bits 0 / 16 = 14
  | .v6 bits => groupAt bits 0 / 256 = 255

def Address.isMapped : Address → Bool
  | .v4 _ => false
  | .v6 bits => (mapped? bits).isSome

end AddressSync
