/-! Decimal numerals for unsigned numbers: an optional plus sign, then digits, with any number of
leading zeros. The digits are read from the left, and the first fault met is the one reported. -/

namespace AddressSync.Text

inductive NumeralFault
  | empty
  | notDigit
  | tooLarge
  deriving DecidableEq, Repr

def NumeralFault.message : NumeralFault → String
  | .empty => "cannot parse integer from empty string"
  | .notDigit => "invalid digit found in string"
  | .tooLarge => "number too large to fit in target type"

def digitValue? (c : Char) : Option Nat :=
  if '0' ≤ c ∧ c ≤ '9' then some (c.toNat - '0'.toNat) else none

def readDigits (limit : Nat) (value : Nat) : List Char → Except NumeralFault Nat
  | [] => .ok value
  | c :: rest =>
    match digitValue? c with
    | none => .error .notDigit
    | some d =>
      if 10 * value + d ≤ limit then readDigits limit (10 * value + d) rest else .error .tooLarge

def numeral (limit : Nat) (s : String) : Except NumeralFault Nat :=
  match s.toList with
  | [] => .error .empty
  | ['+'] => .error .notDigit
  | '+' :: digits => readDigits limit 0 digits
  | digits => readDigits limit 0 digits

end AddressSync.Text
