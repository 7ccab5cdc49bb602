import AddressSync.Address.Parser
import AddressSync.Text.Blank

/-! The address on a page. A page of lines `key=value` gives it in the first line for `ip`; any
other page is taken for the address itself. -/

namespace AddressSync.Detection

open Text

def key : List Char := ['i', 'p', '=']

def lineValue? (line : List Char) : Option (List Char) := after? key (strip line)

def addressText (page : List Char) : List Char :=
  strip (((lines page).findSome? lineValue?).getD page)

end AddressSync.Detection
