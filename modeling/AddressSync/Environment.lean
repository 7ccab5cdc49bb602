import AddressSync.Detection.Source
import AddressSync.Environment.Refusal
import AddressSync.Log
import AddressSync.Settings
import AddressSync.Text.Lowercase

/-! The configuration that the variables of an environment give. A variable that holds nothing but
white space counts as not set. -/

namespace AddressSync.Environment

open Text

abbrev Variables := String → Option String

def names : List String :=
  ["CFSYNC_API_TOKEN", "CFSYNC_MODE", "CFSYNC_VERIFY_TOKEN", "CFSYNC_DOMAINS",
   "CFSYNC_IP4_DOMAINS", "CFSYNC_IP6_DOMAINS", "CFSYNC_IP4_PROVIDER", "CFSYNC_IP6_PROVIDER",
   "CFSYNC_WAF_LISTS", "CFSYNC_WAF_LIST_DESCRIPTION", "CFSYNC_WAF_LIST_ITEM_COMMENT",
   "CFSYNC_TTL", "CFSYNC_PROXIED", "CFSYNC_RECORD_COMMENT", "CFSYNC_UPDATE_INTERVAL_SECS",
   "CFSYNC_DETECTION_TIMEOUT_SECS", "CFSYNC_UPDATE_TIMEOUT_SECS", "CFSYNC_CACHE_TTL_SECS",
   "CFSYNC_UPDATE_ON_START", "CFSYNC_DELETE_ON_STOP", "CFSYNC_LOG_LEVEL"]

structure Plan where
  settings : Settings
  endpointV4 : Endpoint
  endpointV6 : Endpoint
  verifyToken : Bool
  logLevel : Log.Level
  deriving DecidableEq

def Plan.endpoint (p : Plan) : Family → Endpoint | .v4 => p.endpointV4 | .v6 => p.endpointV6

def Plan.source (p : Plan) : Detection.Source :=
  { urlV4 := p.endpointV4.url? .v4, urlV6 := p.endpointV6.url? .v6 }

def Variables.get? (v : Variables) (name : String) : Option String :=
  (v name).filter fun value => !value.toList.all isBlank

def minTokenSize : Nat := 20

/-- Parts of texts that are found in examples and not in tokens. -/
def placeholders : List String := ["your_token", "replace_me", "example"]

def token (v : Variables) : Except Refusal String :=
  match v.get? "CFSYNC_API_TOKEN" with
  | none => .error .tokenMissing
  | some token =>
    if token.utf8ByteSize < minTokenSize then .error (.tokenShort token.utf8ByteSize)
    else if placeholders.any fun part => holds part.toList (lowercase token).toList then
      .error .tokenPlaceholder
    else .ok token

def access (v : Variables) : Except Refusal Access := do
  let token ← token v
  match v.get? "CFSYNC_MODE" with
  | none | some "live" => return { token, trial := false }
  | some "dry-run" => return { token, trial := true }
  | some other => throw (.mode other)

def endpointVariable : Family → String
  | .v4 => "CFSYNC_IP4_PROVIDER"
  | .v6 => "CFSYNC_IP6_PROVIDER"

def isPlainUrl (value : String) : Bool := startsWith "http://".toList value.toList

def isUrl (value : String) : Bool :=
  isPlainUrl value || startsWith "https://".toList value.toList

def endpoint (v : Variables) (family : Family) : Except Refusal Endpoint :=
  match v.get? (endpointVariable family) with
  | none => .ok .builtIn
  | some value =>
    let value := trim value
    if value = "cloudflare.trace" then .ok .builtIn
    else if value = "none" then .ok .disabled
    else if isUrl value then .ok (.custom value)
    else .error (.endpoint (endpointVariable family) value)

/-- The entries between commas, without the blanks around them and without the empty ones. -/
def entries (value : Option String) : List String :=
  (((pieces ',' (value.getD "").toList).map strip).filter (· ≠ [])).map String.ofList

def domainsIn (v : Variables) (name : String) : Except Refusal (List Domain) :=
  (entries (v.get? name)).mapM fun entry => (Domain.parse entry).mapError (.domain name)

def ownDomainsVariable : Family → String
  | .v4 => "CFSYNC_IP4_DOMAINS"
  | .v6 => "CFSYNC_IP6_DOMAINS"

/-- The domains to publish for a family: its own and the shared ones, in order and once each. A
family that is not detected may have none of its own. -/
def domains (v : Variables) (shared : List Domain) (enabled : Bool) (family : Family) :
    Except Refusal (Option (List Domain)) := do
  let name := ownDomainsVariable family
  let own ← domainsIn v name
  if !enabled && !own.isEmpty then throw (.disabledDomains name family)
  let all := if enabled then own ++ shared else []
  return if all.isEmpty then none else some (Domain.dropRepeats (Domain.sort all))

def listOf (description comment entry : String) : Except Refusal ListTarget :=
  match cut? '/' entry.toList with
  | some (account, name) =>
    .ok ⟨String.ofList account, String.ofList name, description, comment⟩
  | none => .error (.listEntry entry)

def lists (v : Variables) : Except Refusal (List ListTarget) :=
  let description := (v.get? "CFSYNC_WAF_LIST_DESCRIPTION").getD ""
  let comment := (v.get? "CFSYNC_WAF_LIST_ITEM_COMMENT").getD ""
  (entries (v.get? "CFSYNC_WAF_LISTS")).mapM (listOf description comment)

def number (v : Variables) (name : String) (limit absent : Nat) : Except Refusal Nat :=
  match v.get? name with
  | none => .ok absent
  | some value => (numeral limit (trim value)).mapError (.numeral name value)

def uint32 (v : Variables) (name : String) (absent : UInt32) : Except Refusal UInt32 :=
  (number v name (UInt32.size - 1) absent.toNat).map UInt32.ofNat

def uint64 (v : Variables) (name : String) (absent : UInt64) : Except Refusal UInt64 :=
  (number v name (UInt64.size - 1) absent.toNat).map UInt64.ofNat

def switch (v : Variables) (name : String) (absent : Bool) : Except Refusal Bool :=
  match v.get? name with
  | none => .ok absent
  | some value =>
    let word := lowercase (trim value)
    if ["true", "1", "yes", "on"].contains word then .ok true
    else if ["false", "0", "no", "off"].contains word then .ok false
    else .error (.switch name word)

def logLevel (v : Variables) : Except Refusal Log.Level :=
  match lowercase ((v.get? "CFSYNC_LOG_LEVEL").getD "info") with
  | "trace" => .ok .trace
  | "debug" => .ok .debug
  | "info" => .ok .info
  | "warn" => .ok .warn
  | "error" => .ok .error
  | other => .error (.logLevel other)

def attributes (v : Variables) : Except Refusal Attributes := do
  let absent : Attributes := {}
  let ttl ← uint32 v "CFSYNC_TTL" absent.ttl
  let proxied ← switch v "CFSYNC_PROXIED" absent.proxied
  return { ttl, proxied, comment := (v.get? "CFSYNC_RECORD_COMMENT").getD "" }

def timing (v : Variables) : Except Refusal Timing := do
  let absent : Timing := {}
  let interval ← uint64 v "CFSYNC_UPDATE_INTERVAL_SECS" absent.interval
  let detectionLimit ← uint64 v "CFSYNC_DETECTION_TIMEOUT_SECS" absent.detectionLimit
  let updateLimit ← uint64 v "CFSYNC_UPDATE_TIMEOUT_SECS" absent.updateLimit
  let updateOnStart ← switch v "CFSYNC_UPDATE_ON_START" absent.updateOnStart
  let deleteOnStop ← switch v "CFSYNC_DELETE_ON_STOP" absent.deleteOnStop
  return { absent with interval, detectionLimit, updateLimit, updateOnStart, deleteOnStop }

def load (v : Variables) : Except Refusal Plan := do
  let access ← access v
  let endpointV4 ← endpoint v .v4
  let endpointV6 ← endpoint v .v6
  let families := (if endpointV4 = .disabled then [] else [Family.v4]) ++
    if endpointV6 = .disabled then [] else [Family.v6]
  let shared ← domainsIn v "CFSYNC_DOMAINS"
  let domainsV4 ← domains v shared (endpointV4 ≠ .disabled) .v4
  let domainsV6 ← domains v shared (endpointV6 ≠ .disabled) .v6
  let lists ← lists v
  let attributes ← attributes v
  let timing ← timing v
  let cacheLifetime ← uint64 v "CFSYNC_CACHE_TTL_SECS" defaultCacheLifetime
  let verifyToken ← switch v "CFSYNC_VERIFY_TOKEN" true
  let logLevel ← logLevel v
  return { settings :=
             { access, families, domainsV4, domainsV6, lists, attributes, cacheLifetime, timing }
           endpointV4, endpointV6, verifyToken, logLevel }

def endpointWarning (v : Variables) (family : Family) : List String :=
  match endpoint v family with
  | .ok (.custom url) =>
    if isPlainUrl url then
      [s!"WARNING: {endpointVariable family} uses HTTP (not HTTPS). " ++
        "Detected addresses could be tampered with."]
    else []
  | _ => []

def warnings (v : Variables) : List String :=
  match access v, endpoint v .v4 with
  | .error _, _ => []
  | .ok _, .error _ => []
  | .ok _, .ok _ => endpointWarning v .v4 ++ endpointWarning v .v6

def minInterval : UInt64 := 30

inductive Objection
  | interval (seconds : UInt64)
  | flaw (f : Settings.Flaw)
  deriving DecidableEq, Repr

def Objection.cause? : Objection → Option Failure
  | .interval _ => none
  | .flaw f => some f.failure

def Objection.message : Objection → String
  | .interval seconds =>
    s!"CFSYNC_UPDATE_INTERVAL_SECS must be at least 30 seconds. Got: {seconds.toNat}"
  | .flaw f => f.failure.message

def Plan.validate (p : Plan) : Except Objection Unit := do
  if p.settings.timing.interval < minInterval then
    throw (.interval p.settings.timing.interval)
  p.settings.validate.mapError .flaw

def refusedCode : Nat := 1

def brokenCode : Nat := 2

/-- What is told to the user of an environment that is refused; none if it is taken. -/
def complaint? (v : Variables) : Option String :=
  match load v with
  | .error e => some ("Configuration error: " ++ e.message)
  | .ok plan =>
    match plan.validate with
    | .error e => some ("Configuration validation error: " ++ e.message)
    | .ok () => none

end AddressSync.Environment
