import AddressSync.Address.Block

/-! Blocks bit by bit. A block holds the addresses that begin with the bits it was cut to, so that
blocks which hold the same addresses are the same. -/

namespace AddressSync

variable {width length i : Nat}

def Address.bit : Address → Nat → Bool
  | .v4 bits => bits.getMsbD
  | .v6 bits => bits.getMsbD

theorem getMsbD_leadingOnes (fits : length ≤ width) :
    (leadingOnes width length).getMsbD i = decide (i < length) := by
  have place : i + (width - length) < width ↔ i < length := by omega
  simp [leadingOnes, place]

theorem and_leadingOnes_eq_iff (fits : length ≤ width) {x y : BitVec width} :
    x &&& leadingOnes width length = y &&& leadingOnes width length ↔
      ∀ i < length, x.getMsbD i = y.getMsbD i := by
  constructor
  · intro same i inside
    have bits := congrArg (·.getMsbD i) same
    simpa [getMsbD_leadingOnes fits, inside] using bits
  · intro same
    apply BitVec.eq_of_getMsbD_eq
    intro i _
    by_cases inside : i < length
    · simp [getMsbD_leadingOnes fits, same i inside]
    · simp [getMsbD_leadingOnes fits, inside]

theorem getMsbD_flip (x : BitVec width) (inside : i < width) (j : Nat) :
    (x ^^^ BitVec.twoPow width (width - 1 - i)).getMsbD j = (x.getMsbD j ^^ decide (j = i)) := by
  have place : width - (width - 1 - i) - 1 = i := by omega
  have within : width - 1 - i < width := by omega
  simp [BitVec.getMsbD_twoPow, place, within]

namespace Address

variable {a x : Address}

theorem keep_eq_keep_iff (fits : length ≤ a.family.width) :
    x.keep length = a.keep length ↔
      x.family = a.family ∧ ∀ i < length, x.bit i = a.bit i := by
  cases a <;> cases x
  case v4.v4 | v6.v6 =>
    simp only [keep, v4.injEq, v6.injEq, family, bit, true_and]
    exact and_leadingOnes_eq_iff fits
  case v4.v6 | v6.v4 => simp [keep, family]

theorem contains_blockOf (fits : length ≤ a.family.width) :
    (a.blockOf length fits).contains x ↔
      x.family = a.family ∧ ∀ i < length, x.bit i = a.bit i := by
  simp only [Block.contains, Block.family, blockOf, family_keep, Bool.and_eq_true,
    decide_eq_true_eq, keep_eq_keep_iff fits, and_self_left]

theorem exists_flipped (a : Address) (inside : i < a.family.width) :
    ∃ x : Address, x.family = a.family ∧ x.bit i ≠ a.bit i ∧ ∀ j ≠ i, x.bit j = a.bit j := by
  cases a with
  | v4 bits =>
    refine ⟨.v4 (bits ^^^ BitVec.twoPow 32 (32 - 1 - i)), rfl, ?_, ?_⟩
    · simp [bit, getMsbD_flip bits inside]
    · intro j other
      simp [bit, getMsbD_flip bits inside, other]
  | v6 bits =>
    refine ⟨.v6 (bits ^^^ BitVec.twoPow 128 (128 - 1 - i)), rfl, ?_, ?_⟩
    · simp [bit, getMsbD_flip bits inside]
    · intro j other
      simp [bit, getMsbD_flip bits inside, other]

end Address

namespace Block

variable {a x : Address} {b b' : Block}

theorem make_eq_ok_iff : make a length = .ok b ↔ ∃ fits, b = a.blockOf length fits := by
  unfold make
  split
  · next fits => simp [fits, eq_comm]
  · next long => simp [long]

theorem blockOf_self (b : Block) : b.address.blockOf b.length b.length_le_width = b := by
  cases b
  simp only [Address.blockOf, mk.injEq, and_true]
  assumption

theorem make_self (b : Block) : make b.address b.length = .ok b :=
  make_eq_ok_iff.mpr ⟨b.length_le_width, (blockOf_self b).symm⟩

theorem contains_iff (b : Block) :
    b.contains x ↔ x.family = b.family ∧ ∀ i < b.length, x.bit i = b.address.bit i := by
  have cut := Address.contains_blockOf (x := x) b.length_le_width
  rwa [blockOf_self] at cut

theorem contains_address (b : Block) : b.contains b.address :=
  b.contains_iff.mpr ⟨rfl, fun _ _ => rfl⟩

theorem length_le_of_within (within : ∀ x, b.contains x → b'.contains x) :
    b'.length ≤ b.length := by
  have held := within _ b.contains_address
  apply Nat.le_of_not_lt
  intro shorter
  have family : b.address.family = b'.family := (b'.contains_iff.mp held).1
  have inside : b.length < b.address.family.width := by
    rw [family]
    exact Nat.lt_of_lt_of_le shorter b'.length_le_width
  -- The first bit that the shorter block leaves open is fixed in the longer one.
  obtain ⟨x, ofFamily, differs, same⟩ := b.address.exists_flipped inside
  have own : b.contains x := by
    apply b.contains_iff.mpr
    refine ⟨ofFamily, ?_⟩
    intro i before
    exact same i (by omega)
  apply differs
  rw [(b'.contains_iff.mp (within x own)).2 _ shorter, (b'.contains_iff.mp held).2 _ shorter]

theorem eq_of_contains (same : ∀ x, b.contains x = b'.contains x) : b = b' := by
  have lengths : b.length = b'.length := by
    apply Nat.le_antisymm
    · exact length_le_of_within fun x held => (same x).trans held
    · exact length_le_of_within fun x held => (same x).symm.trans held
  have held : b'.contains b.address := (same _).symm.trans b.contains_address
  have addresses : b.address = b'.address := by
    rw [← b.keep_address, lengths]
    exact of_decide_eq_true (Bool.and_eq_true_iff.mp held).2
  cases b
  cases b'
  cases lengths
  cases addresses
  rfl

/-- The addresses in the block are those that begin as the given one does. -/
def BeginsAs (b : Block) (a : Address) : Prop :=
  ∀ x, b.contains x ↔ x.family = a.family ∧ ∀ i < b.length, x.bit i = a.bit i

/-- A block is made exactly with a length that the family has bits for. It holds what begins with as
many bits of the address that it was made of, is made again of its own address, and is known by what
it holds. -/
theorem contains_bitwise :
    (∀ a length, (∃ b, make a length = .ok b) ↔ length ≤ a.family.width) ∧
    (∀ a length b, make a length = .ok b → b.length = length ∧ b.BeginsAs a) ∧
    (∀ a : Address, a.listedBlock.BeginsAs a ∧ a.listedBlock.contains a) ∧
    (∀ b : Block, make b.address b.length = .ok b) ∧
    ∀ b b' : Block, b = b' ↔ ∀ x, b.contains x = b'.contains x := by
  refine ⟨?_, ?_, ?_, make_self, ?_⟩
  · intro a length
    simp only [make_eq_ok_iff]
    constructor
    · rintro ⟨_, fits, _⟩
      exact fits
    · intro fits
      exact ⟨_, fits, rfl⟩
  · intro a length b made
    obtain ⟨fits, rfl⟩ := make_eq_ok_iff.mp made
    exact ⟨rfl, fun x => Address.contains_blockOf fits⟩
  · intro a
    have alike : a.listedBlock.BeginsAs a := fun x =>
      Address.contains_blockOf (Family.listedLength_le_width _)
    exact ⟨alike, (alike a).mpr ⟨rfl, fun _ _ => rfl⟩⟩
  · intro b b'
    constructor
    · rintro rfl x
      rfl
    · exact eq_of_contains

theorem contains_bitwise_ending :
    ∃ b, make (.v4 0xC0A80709) 24 = .ok b ∧ b.contains (.v4 0xC0A807FF) ∧
      ¬ b.contains (.v4 0xC0A80800) := by
  obtain ⟨accepts, holds, -⟩ := contains_bitwise
  obtain ⟨b, made⟩ := (accepts (.v4 0xC0A80709) 24).mpr (by decide)
  obtain ⟨length, alike⟩ := holds _ _ b made
  refine ⟨b, made, (alike _).mpr ⟨rfl, ?_⟩, ?_⟩
  · rw [length]
    decide
  · rw [alike, length]
    decide

end Block

end AddressSync
