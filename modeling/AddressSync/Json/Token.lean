import AddressSync.Json.Basic

/-! The lexical level of JSON: punctuation, the three words, strings and numbers. The lexer goes
through the text once, character by character, and is what it is between two of them. -/

namespace AddressSync.Json

inductive Token
  | openArray
  | closeArray
  | openObject
  | closeObject
  | comma
  | colon
  | value (v : Value)

inductive Stage
  | sign
  | zero
  | whole
  | point
  | fraction
  | exponentMark
  | exponentSign
  | exponent
  deriving DecidableEq, Repr

def Stage.complete : Stage → Bool
  | .zero | .whole | .fraction | .exponent => true
  | _ => false

structure Numeral where
  stage : Stage
  negative : Bool := false
  digits : Nat := 0
  places : Nat := 0
  exponent : Nat := 0
  exponentNegative : Bool := false

def Numeral.number (n : Numeral) : Number :=
  { negative := n.negative
    digits := n.digits
    places := n.places
    exponent := if n.exponentNegative then -n.exponent else n.exponent
    plain := n.stage = .zero ∨ n.stage = .whole }

def decimalDigit? (c : Char) : Option Nat :=
  if c.isDigit then some (c.toNat - '0'.toNat) else none

def hexDigit? (c : Char) : Option Nat :=
  if c.isDigit then some (c.toNat - '0'.toNat)
  else if 'a' ≤ c ∧ c ≤ 'f' then some (c.toNat - 'a'.toNat + 10)
  else if 'A' ≤ c ∧ c ≤ 'F' then some (c.toNat - 'A'.toNat + 10)
  else none

def Numeral.push? (n : Numeral) (c : Char) : Option Numeral :=
  match n.stage, decimalDigit? c with
  | .sign, some d => some { n with stage := if d = 0 then .zero else .whole, digits := d }
  | .whole, some d => some { n with digits := 10 * n.digits + d }
  | .point, some d | .fraction, some d =>
    some { n with stage := .fraction, digits := 10 * n.digits + d, places := n.places + 1 }
  | .exponentMark, some d | .exponentSign, some d | .exponent, some d =>
    some { n with stage := .exponent, exponent := 10 * n.exponent + d }
  | stage, none =>
    if c = '.' ∧ (stage = .zero ∨ stage = .whole) then some { n with stage := .point }
    else if (c = 'e' ∨ c = 'E') ∧ (stage = .zero ∨ stage = .whole ∨ stage = .fraction) then
      some { n with stage := .exponentMark }
    else if (c = '+' ∨ c = '-') ∧ stage = .exponentMark then
      some { n with stage := .exponentSign, exponentNegative := c = '-' }
    else none
  | .zero, some _ => none

/-- A string under way: its characters so far, last first, the leading half of a surrogate pair
if one was just read, and whether a half went without its partner. -/
structure Draft where
  chars : List Char := []
  half : Option Nat := none
  broken : Bool := false

def Draft.settle (d : Draft) : Draft := ⟨d.chars, none, d.broken || d.half.isSome⟩

def Draft.push (d : Draft) (c : Char) : Draft :=
  let d := d.settle
  { d with chars := c :: d.chars }

def Draft.pushUnit (d : Draft) (unit : Nat) : Draft :=
  if 0xDC00 ≤ unit ∧ unit ≤ 0xDFFF then
    match d.half with
    | some lead =>
      ⟨Char.ofNat (0x10000 + (lead - 0xD800) * 0x400 + (unit - 0xDC00)) :: d.chars, none, d.broken⟩
    | none => { d with broken := true }
  else if 0xD800 ≤ unit ∧ unit ≤ 0xDBFF then { d.settle with half := some unit }
  else d.push (Char.ofNat unit)

def Draft.content (d : Draft) : Content :=
  let d := d.settle
  if d.broken then none else some (String.ofList d.chars.reverse)

inductive Lexer
  | between
  | word (rest : List Char) (value : Value)
  | numeral (n : Numeral)
  | string (d : Draft)
  | escape (d : Draft)
  | unit (d : Draft) (left : Nat) (value : Nat)

def escaped? : Char → Option Char
  | '"' => some '"'
  | '\\' => some '\\'
  | '/' => some '/'
  | 'b' => some '\x08'
  | 'f' => some '\x0c'
  | 'n' => some '\n'
  | 'r' => some '\r'
  | 't' => some '\t'
  | _ => none

def Lexer.start (c : Char) : Option (Lexer × List Token) :=
  match c with
  | ' ' | '\n' | '\t' | '\r' => some (.between, [])
  | '[' => some (.between, [.openArray])
  | ']' => some (.between, [.closeArray])
  | '\x7b' => some (.between, [.openObject])
  | '\x7d' => some (.between, [.closeObject])
  | ',' => some (.between, [.comma])
  | ':' => some (.between, [.colon])
  | '"' => some (.string {}, [])
  | '-' => some (.numeral { stage := .sign, negative := true }, [])
  | 't' => some (.word ['r', 'u', 'e'] (.bool true), [])
  | 'f' => some (.word ['a', 'l', 's', 'e'] (.bool false), [])
  | 'n' => some (.word ['u', 'l', 'l'] .null, [])
  | c => ((Numeral.mk .sign false 0 0 0 false).push? c).map fun n => (.numeral n, [])

def Lexer.step : Lexer → Char → Option (Lexer × List Token)
  | .between, c => start c
  | .word [] _, _ => none
  | .word (next :: rest) value, c =>
    if c ≠ next then none
    else if rest.isEmpty then some (.between, [.value value])
    else some (.word rest value, [])
  | .numeral n, c =>
    match n.push? c with
    | some n => some (.numeral n, [])
    | none =>
      if n.stage.complete then
        (start c).map fun (lexer, tokens) => (lexer, .value (.number n.number) :: tokens)
      else none
  | .string d, c =>
    if c = '"' then some (.between, [.value (.string d.content)])
    else if c = '\\' then some (.escape d, [])
    else if c.toNat < 0x20 then none
    else some (.string (d.push c), [])
  | .escape d, c =>
    if c = 'u' then some (.unit d 4 0, [])
    else (escaped? c).map fun c => (.string (d.push c), [])
  | .unit d left value, c =>
    (hexDigit? c).map fun digit =>
      let value := 16 * value + digit
      if left ≤ 1 then (.string (d.pushUnit value), []) else (.unit d (left - 1) value, [])

def Lexer.finish : Lexer → Option (List Token)
  | .between => some []
  | .numeral n => if n.stage.complete then some [.value (.number n.number)] else none
  | _ => none

def tokensAfter (found : List Token) : Lexer → List Char → Option (List Token)
  | lexer, [] => lexer.finish.map fun last => found.reverse ++ last
  | lexer, c :: rest =>
    match lexer.step c with
    | none => none
    | some (lexer, more) => tokensAfter (more.reverse ++ found) lexer rest

def tokens? (text : List Char) : Option (List Token) := tokensAfter [] .between text

end AddressSync.Json
