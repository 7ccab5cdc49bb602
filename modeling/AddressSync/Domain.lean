import AddressSync.Failure
import AddressSync.Text.Blank
import AddressSync.Text.Lowercase
import AddressSync.Text.Quoted

/-! Domain names: plain ones, and wildcards that stand for the names below a suffix. A name is
brought to one form when it is read, in small letters and without a dot at its end. -/

namespace AddressSync

open Text

inductive Domain
  | plain (name : String)
  /-- All names directly below the suffix. -/
  | wildcard (suffix : String)
  deriving DecidableEq, Repr, Hashable

namespace Domain

def maxLength : Nat := 253

def maxLabelLength : Nat := 63

inductive Refusal
  | empty
  | notAscii (input : String)
  | tooLong (length : Nat)
  | emptyLabel (name : String)
  | labelTooLong (label : String)
  | badCharacter (label : String)
  | edgeHyphen (label : String)
  deriving DecidableEq, Repr

def Refusal.detail : Refusal → String
  | .empty => "domain name cannot be empty"
  | .notAscii input => "domain name must be ASCII (punycode): " ++ quote input
  | .tooLong length => s!"domain name too long: {length} chars (max {maxLength})"
  | .emptyLabel name => "domain name has empty label: " ++ quote name
  | .labelTooLong label =>
    s!"domain label too long: {label.length} chars (max {maxLabelLength}). Label: {quote label}"
  | .badCharacter label => "domain label contains invalid characters: " ++ quote label
  | .edgeHyphen label => "domain label cannot start or end with hyphen: " ++ quote label

def Refusal.failure (r : Refusal) : Failure := .invalidInput r.detail

def isLabelChar (c : Char) : Bool := c.isAlphanum || c == '-' || c == '_'

def labelRefusal? (name label : List Char) : Option Refusal :=
  let text := String.ofList label
  if label = [] then some (.emptyLabel (String.ofList name))
  else if maxLabelLength < label.length then some (.labelTooLong text)
  else if !label.all isLabelChar then some (.badCharacter text)
  else if label.head? = some '-' ∨ label.getLast? = some '-' then some (.edgeHyphen text)
  else none

def nameRefusal? (name : List Char) : Option Refusal :=
  (pieces '.' name).findSome? (labelRefusal? name)

/-- The one form of a name: without blanks around it and dots after it, in small letters. -/
def normalize (input : String) : List Char :=
  (dropTrailing (· == '.') (strip input.toList)).map Char.toLower

def parse (input : String) : Except Refusal Domain :=
  let name := normalize input
  if name = [] then .error .empty
  else if !name.all (·.toNat < 128) then .error (.notAscii input)
  else if maxLength < name.length then .error (.tooLong name.length)
  else match after? ['*', '.'] name with
    | some suffix =>
      match nameRefusal? suffix with
      | some refusal => .error refusal
      | none => .ok (.wildcard (String.ofList suffix))
    | none =>
      match nameRefusal? name with
      | some refusal => .error refusal
      | none => .ok (.plain (String.ofList name))

def print : Domain → String
  | .plain name => name
  | .wildcard suffix => "*." ++ suffix

instance : ToString Domain := ⟨print⟩

/-- The name that zones are looked for by: a wildcard's star is never part of a zone's name. -/
def base : Domain → String
  | .plain name => name
  | .wildcard suffix => suffix

def shorter : List Char → List (List Char)
  | [] => []
  | c :: rest => if c = '.' then rest :: shorter rest else shorter rest

/-- The names that a zone holding the domain may have, longest first. -/
def zoneNames (d : Domain) : List String :=
  if d.base = "" then [] else d.base :: (shorter d.base.toList).map String.ofList

/-- How far the way has been gone: what is left of the name, until nothing is left. -/
structure Descent where
  rest : Option (List Char)

def Descent.next (w : Descent) : Option String × Descent :=
  match w.rest with
  | none => (none, w)
  | some name => (some (String.ofList name), ⟨(cut? '.' name).map Prod.snd⟩)

def Descent.nameAt (w : Descent) : Nat → Option String
  | 0 => w.next.1
  | k + 1 => w.next.2.nameAt k

def descent (d : Domain) : Descent := ⟨if d.base = "" then none else some d.base.toList⟩

def before : Domain → Domain → Bool
  | .plain a, .plain b => a < b
  | .plain _, .wildcard _ => true
  | .wildcard _, .plain _ => false
  | .wildcard a, .wildcard b => a < b

def sort (domains : List Domain) : List Domain := domains.mergeSort fun a b => !b.before a

/-- A list without the elements that repeat the one before them. -/
def dropRepeats : List Domain → List Domain
  | a :: b :: rest => if a = b then dropRepeats (b :: rest) else a :: dropRepeats (b :: rest)
  | short => short

end Domain

end AddressSync
