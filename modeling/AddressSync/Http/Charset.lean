import AddressSync.Text.Blank
import AddressSync.Text.Utf8
import AddressSync.Text.Windows1252

/-! The text of a response body: its bytes in the encoding that the content type names, which is
UTF-8 unless it names another. A byte order mark decides by itself. -/

namespace AddressSync.Http

open Text

inductive Encoding
  | utf8
  | utf16 (bigEndian : Bool)
  | windows1252
  deriving DecidableEq, Repr

def westernLabels : List String :=
  ["ansi_x3.4-1968", "ascii", "cp1252", "cp819", "csisolatin1", "ibm819", "iso-8859-1",
   "iso-ir-100", "iso8859-1", "iso88591", "iso_8859-1", "iso_8859-1:1987", "l1", "latin1",
   "us-ascii", "windows-1252", "x-cp1252"]

def littleEndianLabels : List String :=
  ["csunicode", "iso-10646-ucs-2", "ucs-2", "unicode", "unicodefeff", "utf-16", "utf-16le"]

def bigEndianLabels : List String := ["unicodefffe", "utf-16be"]

def Encoding.ofLabel (label : String) : Encoding :=
  let label := label.map Char.toLower
  if westernLabels.contains label then .windows1252
  else if littleEndianLabels.contains label then .utf16 false
  else if bigEndianLabels.contains label then .utf16 true
  else .utf8

def parameter? (name : String) (contentType : String) : Option String :=
  (pieces ';' contentType.toList).tail.findSome? fun piece =>
    match cut? '=' piece with
    | some (key, value) =>
      if (String.ofList (strip key)).map Char.toLower = name then
        some (String.ofList ((strip value).filter (· ≠ '"')))
      else none
    | none => none

def encodingOf (contentType : Option String) : Encoding :=
  match contentType.bind (parameter? "charset") with
  | some label => .ofLabel label
  | none => .utf8

/-- The bytes without a byte order mark, and the encoding, which a mark overrules. -/
def withoutMark (encoding : Encoding) : List UInt8 → Encoding × List UInt8
  | 0xEF :: 0xBB :: 0xBF :: rest => (.utf8, rest)
  | 0xFE :: 0xFF :: rest => (.utf16 true, rest)
  | 0xFF :: 0xFE :: rest => (.utf16 false, rest)
  | bytes => (encoding, bytes)

def bodyText (contentType : Option String) (bytes : List UInt8) : String :=
  let (encoding, bytes) := withoutMark (encodingOf contentType) bytes
  String.ofList (match encoding with
    | .utf8 => decodeUtf8 bytes
    | .utf16 bigEndian => decodeUtf16 bigEndian bytes
    | .windows1252 => bytes.map western)

end AddressSync.Http
