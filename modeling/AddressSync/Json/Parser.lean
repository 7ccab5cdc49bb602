import AddressSync.Json.Token

/-! JSON values from tokens. The containers under way are kept in a list, innermost first, so that
nesting costs no recursion and has no limit of its own. -/

namespace AddressSync.Json

/-- A container under way, its parts in reverse; `field` has read the key of its next entry. -/
inductive Frame
  | array (items : List Value)
  | object (entries : List (Content × Value))
  | field (entries : List (Content × Value)) (key : Content)

inductive Expecting
  | value
  | firstItem
  | key
  | firstKey
  | colon
  | more (v : Value)

abbrev Machine := Expecting × List Frame

def Machine.beginValue (frames : List Frame) : Token → Option Machine
  | .value v => some (.more v, frames)
  | .openArray => some (.firstItem, .array [] :: frames)
  | .openObject => some (.firstKey, .object [] :: frames)
  | _ => none

def Machine.step : Machine → Token → Option Machine
  | (.value, frames), t => beginValue frames t
  | (.firstItem, .array [] :: frames), .closeArray => some (.more (.array []), frames)
  | (.firstItem, frames), t => beginValue frames t
  | (.firstKey, .object [] :: frames), .closeObject => some (.more (.object []), frames)
  | (.firstKey, .object entries :: frames), .value (.string key)
  | (.key, .object entries :: frames), .value (.string key) =>
    some (.colon, .field entries key :: frames)
  | (.colon, frames), .colon => some (.value, frames)
  | (.more v, .array items :: frames), .comma => some (.value, .array (v :: items) :: frames)
  | (.more v, .array items :: frames), .closeArray =>
    some (.more (.array (v :: items).reverse), frames)
  | (.more v, .field entries key :: frames), .comma =>
    some (.key, .object ((key, v) :: entries) :: frames)
  | (.more v, .field entries key :: frames), .closeObject =>
    some (.more (.object ((key, v) :: entries).reverse), frames)
  | _, _ => none

def Machine.run : Machine → List Token → Option Value
  | (.more v, []), [] => some v
  | _, [] => none
  | m, t :: rest => (m.step t).bind fun m => run m rest

def parse? (s : String) : Option Value := (tokens? s.toList).bind (Machine.run (.value, []))

end AddressSync.Json
