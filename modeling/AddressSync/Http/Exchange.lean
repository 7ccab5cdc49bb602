import AddressSync.Json.Printer
import AddressSync.Log
import AddressSync.Program

/-! Programs that speak HTTP: the requests they send, what may come back, and the other things
that they ask for. -/

namespace AddressSync

namespace Http

inductive Method
  | get
  | post
  | put
  | patch
  | delete
  deriving DecidableEq, Repr

def Method.word : Method → String
  | .get => "GET"
  | .post => "POST"
  | .put => "PUT"
  | .patch => "PATCH"
  | .delete => "DELETE"

structure Request where
  method : Method
  url : String
  query : List (String × String) := []
  authorization : Option String := none
  body : Option Json.Value := none

/-- What comes back for a request. Where this is no response, or one whose body broke off, there is a
cause beneath. -/
inductive Reply
  | none (cause : String)
  | cut (status : Nat) (cause : String)
  | response (status : Nat) (text : String)
  deriving DecidableEq, Repr

/-- How the library that makes the requests words its errors: it knows the whole request, and the
cause. -/
structure Wording where
  lost : Request → (cause : String) → String
  broken : Request → (cause : String) → String

def isSuccess (status : Nat) : Bool := 200 ≤ status && status < 300

def isHeaderValue (s : String) : Bool :=
  s.toList.all fun c => c = '\t' || (32 ≤ c.toNat && c.toNat ≠ 127)

inductive Action
  | exchange (r : Request)
  | pause (delay : Nat)
  | log (line : Log.Line)
  /-- What never has an answer: the rest of a program that has used up its allowance. -/
  | endless

abbrev Answer : Action → Type
  | .exchange _ => Reply
  | .pause _ => Unit
  | .log _ => Unit
  | .endless => Empty

def signature : Signature := ⟨Action, Answer⟩

end Http

abbrev Http := Program Http.signature

namespace Http

def exchange (r : Request) : Http Reply := Program.perform (S := signature) (.exchange r)

def pause (delay : Nat) : Http Unit := Program.perform (S := signature) (.pause delay)

def log (level : Log.Level) (message : String) (fields : List (String × Log.Field)) : Http Unit :=
  Program.perform (S := signature) (.log ⟨level, message, fields⟩)

def endless {α : Type} : Http α := .ask (S := signature) .endless nofun

end Http

end AddressSync
