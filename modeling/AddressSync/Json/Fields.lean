import AddressSync.Json.Basic

/-! Reading JSON into fixed shapes. A shape with named fields is an object, where each field is
given at most once and other keys are skipped, or an array of the fields in their order. -/

namespace AddressSync.Json

structure Fields where
  named : Bool
  given : List (String × Value)

def occurrences (key : String) (entries : List (Content × Value)) : Nat :=
  (entries.filter fun entry => entry.1 == some key).length

def lookup? (key : String) : List (Content × Value) → Option Value
  | [] => none
  | (k, v) :: rest => if k == some key then some v else lookup? key rest

/-- The named fields of a value. An array may stop early, but holds no more than the fields. -/
def Value.fields? (names : List String) : Value → Option Fields
  | .object entries =>
    if entries.all (fun entry => entry.1.isSome) && names.all (occurrences · entries ≤ 1) then
      some ⟨true, names.filterMap fun name => (lookup? name entries).map fun v => (name, v)⟩
    else none
  | .array items => if items.length ≤ names.length then some ⟨false, names.zip items⟩ else none
  | _ => none

def Fields.get? (f : Fields) (name : String) : Option Value := f.given.lookup name

def Fields.required {α : Type} (f : Fields) (name : String) (read : Value → Option α) : Option α :=
  (f.get? name).bind read

/-- A field with a value of its own when it is not given; null is a given value. -/
def Fields.withDefault {α : Type} (f : Fields) (name : String) (absent : α)
    (read : Value → Option α) : Option α :=
  match f.get? name with
  | none => some absent
  | some v => read v

def nullable {α : Type} (read : Value → Option α) : Value → Option (Option α)
  | .null => some none
  | v => (read v).map some

/-- A field that may be null, and that may be left out where fields go by name. -/
def Fields.optional {α : Type} (f : Fields) (name : String) (read : Value → Option α) :
    Option (Option α) :=
  match f.get? name with
  | none => if f.named then some none else none
  | some v => nullable read v

def Value.string? : Value → Option String
  | .string s => s
  | _ => none

def Value.bool? : Value → Option Bool
  | .bool b => some b
  | _ => none

def Value.nat? (limit : Nat) : Value → Option Nat
  | .number n => if n.plain ∧ n.negative = false ∧ n.digits ≤ limit then some n.digits else none
  | _ => none

def Value.uint32? (v : Value) : Option UInt32 := (v.nat? (UInt32.size - 1)).map UInt32.ofNat

def Value.uint64? (v : Value) : Option UInt64 := (v.nat? (UInt64.size - 1)).map UInt64.ofNat

def Value.int64? : Value → Option Int
  | .number n =>
    if n.plain = false then none
    else if n.negative then
      if 0 < n.digits ∧ n.digits ≤ UInt64.size / 2 then some (-n.digits) else none
    else if n.digits < UInt64.size / 2 then some n.digits
    else none
  | _ => none

def readAll {α : Type} (read : Value → Option α) : List Value → Option (List α)
  | [] => some []
  | v :: rest => do
    let x ← read v
    return x :: (← readAll read rest)

def Value.list? {α : Type} (read : Value → Option α) : Value → Option (List α)
  | .array items => readAll read items
  | _ => none

/-- One of several fixed words, given as a string or as the only key of an object, over null. -/
def Value.word? : Value → Option String
  | .string s => s
  | .object [(key, .null)] => key
  | _ => none

end AddressSync.Json
