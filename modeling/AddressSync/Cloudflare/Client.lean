import AddressSync.Cloudflare.Wire
import AddressSync.Failure
import AddressSync.Http.Exchange
import AddressSync.Http.Status
import AddressSync.Settings
import AddressSync.Text.Blank

/-! The client of the Cloudflare interface: how one request is sent, and how its answer is told
apart from a failure. Anything but a successful status over an envelope that reports success is a
failure, whose kind the answer decides. -/

namespace AddressSync.Cloudflare

open Http Text

def providerName : String := "cloudflare"

def defaultBase : String := "https://api.cloudflare.com/client/v4"

/-- The words of others in the messages of a client: beside those of the library that makes the
requests, what the decoder finds wrong with the text that an operation got. -/
structure Words extends Wording where
  misfit : (context text : String) → String

/-- A trial client reads but only tells what it would change; `made` counts the identifiers that
it made up for what it did not create. The number stands for a counter of 64 bits, which would begin
anew only after one run made up as many identifiers as these can tell apart. -/
structure Client where
  token : String
  base : String := defaultBase
  trial : Bool
  made : Nat := 0
  words : Words

def Client.ofAccess (words : Words) (a : Access) : Except Settings.Flaw Client := do
  a.validate
  return { token := a.token, trial := a.trial, words }

def Client.withBase (c : Client) (base : String) : Client :=
  { c with base := String.ofList (dropTrailing (· == '/') base.toList) }

def Client.describe (c : Client) : String :=
  s!"CloudflareApi \x7b api_token: \"<REDACTED>\", base_url: {quote c.base}, dry_run: {c.trial} \x7d"

def Client.request (c : Client) (method : Method) (path : String)
    (query : List (String × String)) (body : Option Json.Value) : Request :=
  { method, url := c.base ++ path, query, authorization := some ("Bearer " ++ c.token), body }

def problem (detail : String) : Failure := .provider providerName detail

def describeErrors (errors : List Message) : String :=
  "; ".intercalate (errors.map fun e => s!"{e.text} (code {e.code})")

def detail (text : String) : String :=
  match Envelope.parse? anything? text with
  | some envelope =>
    let told := describeErrors envelope.errors
    if told = "" then trim text else told
  | none => trim text

def statusFailure (status : Nat) (context text : String) : Failure :=
  if status = 401 ∨ status = 403 then
    .authentication
      s!"{context}: invalid API token or insufficient permissions. Status: {statusText status}"
  else if status = 404 then .notFound s!"{context}: {detail text}"
  else if status = 409 then
    problem s!"{context}: conflict with a concurrent change: {detail text}"
  else if status = 429 then
    .rateLimited s!"{context}: rate limit exceeded. Status: {statusText status}"
  else if 500 ≤ status ∧ status < 600 then
    problem s!"{context}: server error (transient): {statusText status} - {detail text}"
  else problem s!"{context}: {statusText status} - {detail text}"

inductive Defect
  | lost (cause : String)
  | broken (cause : String)
  | status (status : Nat) (text : String)
  | misfit (text : String)
  | unsuccessful (errors : List Message)

def readReply {α : Type} (read : Json.Value → Option α) : Reply → Except Defect (Envelope α)
  | .none cause => .error (.lost cause)
  | .cut _ cause => .error (.broken cause)
  | .response status text =>
    if !isSuccess status then .error (.status status text)
    else match Envelope.parse? read text with
      | none => .error (.misfit text)
      | some envelope =>
        if envelope.success then .ok envelope else .error (.unsuccessful envelope.errors)

def Client.failure (c : Client) (r : Request) (context : String) : Defect → Failure
  | .lost cause => .http s!"{context}: request failed: {c.words.lost r cause}"
  | .broken cause => .http s!"{context}: failed to read response: {c.words.broken r cause}"
  | .status status text => statusFailure status context text
  | .misfit text => problem s!"{context}: failed to parse response: {c.words.misfit context text}"
  | .unsuccessful errors => problem s!"{context}: {describeErrors errors}"

def Client.open? {α : Type} (c : Client) (r : Request) (context : String)
    (read : Json.Value → Option α) (reply : Reply) : Except Failure (Envelope α) :=
  (readReply read reply).mapError (c.failure r context)

/-- What stands for the reply where the request could not be built. -/
def unbuilt : Reply := .none "failed to parse header value"

/-- Sends a request; one whose token fits no header is not sent at all. -/
def Client.send {α : Type} (c : Client) (context : String) (read : Json.Value → Option α)
    (method : Method) (path : String) (query : List (String × String) := [])
    (body : Option Json.Value := none) : Http (Except Failure (Envelope α)) := do
  log .debug "Cloudflare API request" [("method", .text method.word), ("path", .text path)]
  let r := c.request method path query body
  if !isHeaderValue c.token then return c.open? r context read unbuilt
  let reply ← exchange r
  return c.open? r context read reply

def Client.fetch {α : Type} (c : Client) (context : String) (read : Json.Value → Option α)
    (method : Method) (path : String) (query : List (String × String) := [])
    (body : Option Json.Value := none) : Http (Except Failure α) := do
  match ← c.send context read method path query body with
  | .error e => return .error e
  | .ok envelope =>
    match envelope.result with
    | some result => return .ok result
    | none => return .error (problem (context ++ ": response has no result"))

def Client.execute (c : Client) (context : String) (method : Method) (path : String)
    (body : Option Json.Value := none) : Http (Except Failure Unit) := do
  match ← c.send context anything? method path [] body with
  | .error e => return .error e
  | .ok _ => return .ok ()

def Client.announce (c : Client) (method : Method) (path : String) (body : Option Json.Value) :
    Http Unit :=
  let payload := (body.getD .null).print
  log .info
    s!"[DRY-RUN] Would send {method.word} request to {c.base}{path} with payload: {payload}" []

def madeUpId (n : Nat) : String := s!"dry-run-{n}"

end AddressSync.Cloudflare
