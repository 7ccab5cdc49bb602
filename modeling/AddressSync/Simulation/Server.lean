import AddressSync.Http.Charset
import AddressSync.Http.Exchange

/-! A simulated network for programs that speak HTTP. Its server gives prepared responses one after
the other, whatever the requests are, and reports an error once they are used up; where no server
can be reached, no request gets through at all. -/

namespace AddressSync.Simulation

open Http

inductive Canned
  | drop
  | response (status : Nat) (body : List UInt8) (contentType : Option String) (truncated : Bool)

structure Network where
  reachable : Bool
  prepared : List Canned
  received : List Http.Request := []
  lines : List Log.Line := []

def hasBody (status : Nat) : Bool := status ≠ 204 && status ≠ 304

def Canned.reply : Canned → Reply
  | .drop => .none "connection closed before message completed"
  | .response status body contentType truncated =>
    if !hasBody status then .response status ""
    else if truncated then .cut status "end of file before message length reached"
    else .response status (bodyText contentType body)

def wording : Wording := ⟨fun _ cause => cause, fun _ cause => cause⟩

def exhausted : Reply := .response 500 "script exhausted"

namespace Network

def exchange (n : Network) (r : Http.Request) : Reply × Network :=
  if !n.reachable then (.none "tcp connect error", n)
  else
    let n := { n with received := n.received ++ [r] }
    match n.prepared with
    | [] => (exhausted, n)
    | canned :: rest => (canned.reply, { n with prepared := rest })

def answer : (a : Http.Action) → Network → Option (Http.Answer a × Network)
  | .exchange r, n => some (n.exchange r)
  | .pause _, n => some ((), n)
  | .log line, n => some ((), { n with lines := n.lines ++ [line] })
  | .endless, _ => none

def run {α : Type} (p : Http α) (n : Network) : Option (α × Network) := p.run? answer n

def drain (n : Network) : Network := { n with received := [], lines := [] }

/-- More requests than a listing can have answered: beyond the prepared responses all is error. -/
def allowance (n : Network) : Nat := n.prepared.length + 1

end Network

end AddressSync.Simulation
