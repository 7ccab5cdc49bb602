/-! Why something could not be done, and how it is told. -/

namespace AddressSync

inductive Failure
  | detection (detail : String)
  | configuration (detail : String)
  | json
  | http (detail : String)
  | authentication (detail : String)
  | rateLimited (detail : String)
  | notFound (detail : String)
  | invalidInput (detail : String)
  /-- The provider holds data that cannot be what it claims to be. -/
  | invalidRecord (detail : String)
  | zoneNotFound (name : String)
  | ambiguousZone (zone : String) (count : Nat)
  | provider (name : String) (detail : String)
  | other (detail : String)
  deriving DecidableEq, Repr

def Failure.message : Failure → String
  | .detection detail => "IP detection error: " ++ detail
  | .configuration detail => "Configuration error: " ++ detail
  | .json => "JSON error"
  | .http detail => "HTTP error: " ++ detail
  | .authentication detail => "Authentication failed: " ++ detail
  | .rateLimited detail => "Rate limited: " ++ detail
  | .notFound detail => "Not found: " ++ detail
  | .invalidInput detail => "Invalid input: " ++ detail
  | .invalidRecord detail => "Invalid data from provider: " ++ detail
  | .zoneNotFound name => "No zone found for " ++ name
  | .ambiguousZone zone count => s!"Found {count} zones named {zone}"
  | .provider name detail => s!"Provider error ({name}): {detail}"
  | .other detail => detail

/-- Whether the failure tells of a wrong state at the provider and not of a call gone wrong. -/
def Failure.isIntegrity : Failure → Bool
  | .invalidRecord _ | .ambiguousZone _ _ => true
  | _ => false

instance : ToString Failure := ⟨Failure.message⟩

end AddressSync
