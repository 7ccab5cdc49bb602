/-! Query strings in the form that web forms send: unreserved characters stand for themselves, a
space is a plus sign, and every other byte is a percent sign and two hexadecimal digits. -/

namespace AddressSync.Http

def isFormSafe (b : UInt8) : Bool :=
  let c := Char.ofNat b.toNat
  b < 128 && (c.isAlphanum || c == '*' || c == '-' || c == '.' || c == '_')

def hexDigit (n : Nat) : Char := (Nat.digitChar n).toUpper

def formByte (b : UInt8) : List Char :=
  if b = 32 then ['+']
  else if isFormSafe b then [Char.ofNat b.toNat]
  else ['%', hexDigit (b.toNat / 16), hexDigit (b.toNat % 16)]

def formText (s : String) : String := String.ofList (s.toUTF8.toList.flatMap formByte)

def formPair (pair : String × String) : String := formText pair.1 ++ "=" ++ formText pair.2

def formQuery (pairs : List (String × String)) : String := "&".intercalate (pairs.map formPair)

end AddressSync.Http
