import AddressSync.Address.Printer
import AddressSync.Detection.Endpoint
import AddressSync.Detection.Page
import AddressSync.Failure
import AddressSync.Http.Exchange
import AddressSync.Http.Status
import AddressSync.Text.Quoted

/-! Detection over HTTP: one request for the page of a family. -/

namespace AddressSync.Detection

open Http

def sourceName : String := "http"

/-- The endpoints of the families; one without an endpoint cannot be detected. -/
structure Source where
  urlV4 : Option String := some Family.v4.builtInUrl
  urlV6 : Option String := some Family.v6.builtInUrl
  deriving DecidableEq, Repr

def Source.url? (s : Source) : Family → Option String | .v4 => s.urlV4 | .v6 => s.urlV6

def Source.withUrl (s : Source) (family : Family) (url : Option String) : Source :=
  match family with
  | .v4 => { s with urlV4 := url }
  | .v6 => { s with urlV6 := url }

inductive Miss
  | noEndpoint (family : Family)
  | noResponse (url error : String)
  | status (url : String) (status : Nat)
  | unreadable (url error : String)
  | notAddress (text : String)
  | otherFamily (url : String) (address : Address) (family : Family)
  deriving DecidableEq, Repr

def Miss.detail : Miss → String
  | .noEndpoint family => s!"No detection endpoint configured for {family.name}"
  | .noResponse url error => s!"Request to {url} failed: {error}"
  | .status url code => s!"{url} answered with HTTP {statusText code}"
  | .unreadable url error => s!"Failed to read answer of {url}: {error}"
  | .notAddress text => "Answer is not an IP address: " ++ Text.quote text
  | .otherFamily url address family =>
    s!"{url} returned {address}, which is not an {family.name} address"

def Miss.failure (m : Miss) : Failure := .detection m.detail

def request (url : String) : Request := { method := .get, url }

def readReply (wording : Wording) (url : String) (family : Family) : Reply → Except Miss Address
  | .none cause => .error (.noResponse url (wording.lost (request url) cause))
  | .cut status cause =>
    .error (if isSuccess status then .unreadable url (wording.broken (request url) cause)
      else .status url status)
  | .response status page =>
    if !isSuccess status then .error (.status url status)
    else
      let text := addressText page.toList
      match Address.parseChars? text with
      | none => .error (.notAddress (String.ofList text))
      | some address =>
        if address.family ≠ family then .error (.otherFamily url address family) else .ok address

def Source.detect (s : Source) (wording : Wording) (family : Family) :
    Http (Except Miss Address) := do
  match s.url? family with
  | none => return .error (.noEndpoint family)
  | some url =>
    let reply ← exchange (request url)
    match readReply wording url family reply with
    | .error miss => return .error miss
    | .ok address =>
      log .debug "detected public address"
        [("family", .text family.name), ("ip", .text address.print), ("url", .text url)]
      return .ok address

end AddressSync.Detection
