import AddressSync.Cloudflare.Listing

/-! Changes of lists run on at the server after it has taken them. Such an operation is asked
after until it has ended, a bounded number of times. -/

namespace AddressSync.Cloudflare

open Http

def pollLimit : Nat := 20

/-- The time between two questions, in milliseconds. -/
def pollDelay : Nat := 500

namespace Client

def awaitOperation (c : Client) (account operation : String) :
    (left : Nat) → Http (Except Failure Unit)
  | 0 => return .error (problem s!"list operation {operation} did not complete in time")
  | left + 1 => do
    match ← c.fetch "poll list operation" OperationStatus.ofJson? .get
        (operationPath account operation) with
    | .error e => return .error e
    | .ok answer =>
      if answer.status = "completed" then return .ok ()
      else if answer.status = "failed" then
        return .error
          (problem (s!"list operation {operation} failed: " ++ answer.error.getD ""))
      else
        log .debug "list operation still running"
          [("operation_id", .text operation), ("status", .text answer.status)]
        if left ≠ 0 then pause pollDelay
        awaitOperation c account operation left

def operate (c : Client) (context : String) (method : Method) (account id : String)
    (body : Json.Value) : Http (Except Failure Unit) := do
  match ← c.fetch context operationOfJson? method (itemsPath account id) [] (some body) with
  | .error e => return .error e
  | .ok operation => c.awaitOperation account operation pollLimit

end Client

end AddressSync.Cloudflare
