import AddressSync.Address.Basic

/-! Where the address of a family is asked for. -/

namespace AddressSync

inductive Endpoint
  | builtIn
  | custom (url : String)
  | disabled
  deriving DecidableEq, Repr

def Family.builtInUrl : Family → String
  | .v4 => "https://1.1.1.1/cdn-cgi/trace"
  | .v6 => "https://[2606:4700:4700::1111]/cdn-cgi/trace"

def Endpoint.url? (family : Family) : Endpoint → Option String
  | .builtIn => some family.builtInUrl
  | .custom url => some url
  | .disabled => none

end AddressSync
