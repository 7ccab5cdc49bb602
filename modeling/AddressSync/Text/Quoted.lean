import AddressSync.Text.GraphemeExtend
import AddressSync.Text.Hidden

/-! Texts quoted for messages: between double quotes, with a backslash before what would not be
seen as itself. -/

namespace AddressSync.Text

def hexDigits (n : Nat) : List Char := Nat.toDigits 16 n

/-- The halfwidth Katakana sound marks belong to the letter before them, but take a place of their
own and are seen in it. -/
def isSoundMark (c : Char) : Bool := c = '\uff9e' || c = '\uff9f'

def isObscure (c : Char) : Bool := isHidden c || (isGraphemeExtend c && !isSoundMark c)

/-- One character of a quoted text. The single quote stands for itself; marks and code points
without a visible form are given by number. -/
def quoteChar (c : Char) : List Char :=
  if c = '"' then ['\\', '"']
  else if c = '\\' then ['\\', '\\']
  else if c = '\n' then ['\\', 'n']
  else if c = '\r' then ['\\', 'r']
  else if c = '\t' then ['\\', 't']
  else if c.toNat = 0 then ['\\', '0']
  else if isObscure c then
    ['\\', 'u', '\x7b'] ++ hexDigits c.toNat ++ ['\x7d']
  else [c]

def quote (s : String) : String :=
  String.ofList ('"' :: s.toList.flatMap quoteChar ++ ['"'])

end AddressSync.Text
