import AddressSync.Address.Basic
import AddressSync.Domain
import AddressSync.Text.Numeral

/-! Why the variables of an environment make no configuration. -/

namespace AddressSync.Environment

inductive Refusal
  | tokenMissing
  | tokenShort (size : Nat)
  | tokenPlaceholder
  | mode (value : String)
  | endpoint (name value : String)
  | domain (name : String) (reason : Domain.Refusal)
  | disabledDomains (name : String) (family : Family)
  | listEntry (entry : String)
  | numeral (name value : String) (fault : Text.NumeralFault)
  | switch (name value : String)
  | logLevel (value : String)
  deriving DecidableEq, Repr

def Refusal.cause? : Refusal → Option Failure
  | .domain _ reason => some reason.failure
  | _ => none

def Refusal.message : Refusal → String
  | .tokenMissing =>
    "CFSYNC_API_TOKEN is required. Set it via: export CFSYNC_API_TOKEN=your_token"
  | .tokenShort size =>
    s!"CFSYNC_API_TOKEN appears too short ({size} chars). " ++
      "Cloudflare tokens are typically 40 characters. Verify your token is correct."
  | .tokenPlaceholder =>
    "CFSYNC_API_TOKEN appears to be a placeholder. " ++
      "Use an actual API token from the Cloudflare dashboard."
  | .mode value => s!"CFSYNC_MODE '{value}' is not valid. Valid modes: live, dry-run"
  | .endpoint name value =>
    s!"{name} '{value}' is not supported. Use cloudflare.trace, an http(s) URL, or none"
  | .domain name reason => s!"{name}: invalid domain: {reason.failure}"
  | .disabledDomains name family => s!"{name} is set but {family.name} detection is disabled"
  | .listEntry entry =>
    s!"CFSYNC_WAF_LISTS entry '{entry}' must look like account_id/list_name"
  | .numeral name value fault => s!"{name} '{value}' is not valid: {fault.message}"
  | .switch name value => s!"{name} '{value}' is not a boolean"
  | .logLevel value =>
    s!"CFSYNC_LOG_LEVEL '{value}' is not valid. Valid levels: trace, debug, info, warn, error"

end AddressSync.Environment
