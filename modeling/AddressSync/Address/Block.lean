import AddressSync.Address.Parser
import AddressSync.Address.Printer
import AddressSync.Failure
import AddressSync.Text.Numeral
import AddressSync.Text.Quoted

/-! Blocks of addresses that share their leading bits. A block is kept with all other bits
cleared, so that each set of addresses is one block. -/

namespace AddressSync

def leadingOnes (width length : Nat) : BitVec width := BitVec.allOnes width <<< (width - length)

def Address.keep (length : Nat) : Address → Address
  | .v4 bits => .v4 (bits &&& leadingOnes 32 length)
  | .v6 bits => .v6 (bits &&& leadingOnes 128 length)

theorem Address.family_keep (length : Nat) (a : Address) : (a.keep length).family = a.family := by
  cases a <;> rfl

theorem Address.keep_keep (length : Nat) (a : Address) :
    (a.keep length).keep length = a.keep length := by
  cases a <;> simp [Address.keep, BitVec.and_assoc]

structure Block where
  address : Address
  length : Nat
  length_le_width : length ≤ address.family.width
  keep_address : address.keep length = address
  deriving DecidableEq

def Address.blockOf (address : Address) (length : Nat) (h : length ≤ address.family.width) : Block :=
  ⟨address.keep length, length, by rw [Address.family_keep]; exact h, Address.keep_keep _ _⟩

theorem Family.listedLength_le_width (family : Family) : family.listedLength ≤ family.width := by
  cases family <;> decide

def Address.listedBlock (address : Address) : Block :=
  address.blockOf address.family.listedLength (Family.listedLength_le_width _)

def Block.family (b : Block) : Family := b.address.family

def Block.contains (b : Block) (address : Address) : Bool :=
  address.family = b.family && address.keep b.length = b.address

def Block.print (b : Block) : String := s!"{b.address}/{b.length}"

instance : ToString Block := ⟨Block.print⟩

inductive Block.Refusal
  | tooLong (length : Nat) (family : Family)
  | malformed (text : String)
  deriving DecidableEq, Repr

def Block.Refusal.failure : Block.Refusal → Failure
  | .tooLong length family =>
    .invalidInput s!"prefix length /{length} is too long for {family.name}"
  | .malformed text => .invalidInput ("invalid IP prefix: " ++ Text.quote text)

def Block.make (address : Address) (length : Nat) : Except Block.Refusal Block :=
  if h : length ≤ address.family.width then .ok (address.blockOf length h)
  else .error (.tooLong length address.family)

/-- Reads an address, a slash and a length, or an address alone, which is a block of its own. The
length is a number of eight bits, so that a longer one is malformed and not too long. -/
def Block.parse (s : String) : Except Block.Refusal Block :=
  let text := Text.strip s.toList
  let malformed : Block.Refusal := .malformed (String.ofList text)
  match Text.cut? '/' text with
  | some (address, length) =>
    match Address.parseChars? address, Text.numeral 255 (String.ofList length) with
    | some address, .ok length => make address length
    | _, _ => .error malformed
  | none =>
    match Address.parseChars? text with
    | some address => make address address.family.width
    | none => .error malformed

end AddressSync
