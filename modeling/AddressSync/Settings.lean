import AddressSync.Domain
import AddressSync.Provider.Basic

/-! What to keep in step, at which provider, and how often. -/

namespace AddressSync

/-- The provider and the right to use it. A trial run reads but changes nothing. -/
structure Access where
  token : String
  trial : Bool := false
  deriving DecidableEq

structure Timing where
  interval : UInt64 := 300
  detectionLimit : UInt64 := 5
  updateLimit : UInt64 := 30
  updateOnStart : Bool := true
  deleteOnStop : Bool := false
  eventCapacity : UInt64 := 1000
  deriving DecidableEq, Repr

/-- How long a cached answer may stand for a call, in seconds; zero turns caching off. -/
def defaultCacheLifetime : UInt64 := 6 * 60 * 60

structure Settings where
  access : Access
  families : List Family := Family.all
  domainsV4 : Option (List Domain) := none
  domainsV6 : Option (List Domain) := none
  lists : List ListTarget := []
  attributes : Attributes := {}
  cacheLifetime : UInt64 := defaultCacheLifetime
  timing : Timing := {}
  deriving DecidableEq

namespace Settings

def given? (s : Settings) : Family → Option (List Domain)
  | .v4 => s.domainsV4
  | .v6 => s.domainsV6

def domains (s : Settings) (family : Family) : List Domain := (s.given? family).getD []

/-- The number of domains to manage, counted once for each mention of their family. -/
def domainCount (s : Settings) : Nat := s.families.foldl (fun count f => count + (s.domains f).length) 0

inductive Flaw
  | noToken
  | nothingToManage
  | disabledFamily (family : Family)
  | recordLifetime (ttl : UInt32)
  | listWithoutAccount (name : String)
  | listName (name : String)
  | zeroInterval
  | zeroDetectionLimit
  | zeroUpdateLimit
  | zeroEventCapacity
  deriving DecidableEq, Repr

def Flaw.detail : Flaw → String
  | .noToken => "Cloudflare API token cannot be empty"
  | .nothingToManage =>
    "Nothing to manage: no domains for the enabled families and no IP lists"
  | .disabledFamily family =>
    s!"Domains are configured for {family.name} but {family.name} detection is disabled"
  | .recordLifetime ttl =>
    s!"TTL must be 1 (automatic) or between 30 and 86400 seconds. Got: {ttl.toNat}"
  | .listWithoutAccount name => s!"IP list {Text.quote name} has no account ID"
  | .listName name =>
    s!"IP list name {Text.quote name} is invalid. " ++
      "Use up to 50 lowercase letters, digits and underscores."
  | .zeroInterval => "Update interval must be > 0"
  | .zeroDetectionLimit => "Detection timeout must be > 0"
  | .zeroUpdateLimit => "Update timeout must be > 0"
  | .zeroEventCapacity => "Event channel capacity must be > 0"

def Flaw.failure (f : Flaw) : Failure := .configuration f.detail

end Settings

def Access.validate (a : Access) : Except Settings.Flaw Unit :=
  if a.token = "" then .error .noToken else .ok ()

def ListTarget.isNameChar (c : Char) : Bool := c.isLower || c.isDigit || c == '_'

def ListTarget.validate (l : ListTarget) : Except Settings.Flaw Unit :=
  if l.account = "" then .error (.listWithoutAccount l.name)
  else if l.name = "" ∨ 50 < l.name.utf8ByteSize ∨ ¬ l.name.toList.all isNameChar then
    .error (.listName l.name)
  else .ok ()

def Timing.validate (t : Timing) : Except Settings.Flaw Unit :=
  if t.interval = 0 then .error .zeroInterval
  else if t.detectionLimit = 0 then .error .zeroDetectionLimit
  else if t.updateLimit = 0 then .error .zeroUpdateLimit
  else if t.eventCapacity = 0 then .error .zeroEventCapacity
  else .ok ()

namespace Settings

def orphans (s : Settings) : List Family :=
  Family.all.filter fun f => !s.families.contains f && !(s.domains f).isEmpty

/-- The first flaw of a configuration, in a fixed order of questions. -/
def validate (s : Settings) : Except Flaw Unit := do
  s.access.validate
  if s.domainCount = 0 ∧ s.lists = [] then throw .nothingToManage
  if let family :: _ := s.orphans then throw (.disabledFamily family)
  let ttl := s.attributes.ttl
  if ttl ≠ 1 ∧ ¬ (30 ≤ ttl ∧ ttl ≤ 86400) then throw (.recordLifetime ttl)
  s.lists.forM ListTarget.validate
  s.timing.validate

end Settings

end AddressSync
