import AddressSync.Json.Basic

/-! JSON text without blanks, entries in the order in which they stand. -/

namespace AddressSync.Json

def escapeChar (c : Char) : List Char :=
  if c = '"' then ['\\', '"']
  else if c = '\\' then ['\\', '\\']
  else if c = '\n' then ['\\', 'n']
  else if c = '\r' then ['\\', 'r']
  else if c = '\t' then ['\\', 't']
  else if c.toNat = 8 then ['\\', 'b']
  else if c.toNat = 12 then ['\\', 'f']
  else if c.toNat < 0x20 then
    ['\\', 'u', '0', '0', Nat.digitChar (c.toNat / 16), Nat.digitChar (c.toNat % 16)]
  else [c]

def escape (s : String) : String := String.ofList ('"' :: s.toList.flatMap escapeChar ++ ['"'])

def Number.print (n : Number) : String :=
  let sign := if n.negative then "-" else ""
  let power := if n.plain then "" else "e" ++ toString (n.exponent - n.places)
  sign ++ toString n.digits ++ power

mutual

def Value.print : Value → String
  | .null => "null"
  | .bool b => if b then "true" else "false"
  | .number n => n.print
  | .string s => escape (s.getD "")
  | .array items => "[" ++ ",".intercalate (printItems items) ++ "]"
  | .object entries => "\x7b" ++ ",".intercalate (printEntries entries) ++ "\x7d"

def printItems : List Value → List String
  | [] => []
  | v :: rest => v.print :: printItems rest

def printEntries : List (Content × Value) → List String
  | [] => []
  | (key, v) :: rest => (escape (key.getD "") ++ ":" ++ v.print) :: printEntries rest

end

end AddressSync.Json
