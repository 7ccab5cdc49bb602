import AddressSync.Address.Block

/-! What a provider holds: zones, the address records in them, and the lists of an account. -/

namespace AddressSync

inductive ZoneStatus
  | active
  | pending
  | initializing
  | moved
  | deactivated
  | deleted
  | unknown (word : String)
  deriving DecidableEq, Repr

def ZoneStatus.ofWord : String → ZoneStatus
  | "active" => .active
  | "pending" => .pending
  | "initializing" => .initializing
  | "moved" => .moved
  | "deactivated" => .deactivated
  | "deleted" => .deleted
  | word => .unknown word

def ZoneStatus.word : ZoneStatus → String
  | .active => "active"
  | .pending => "pending"
  | .initializing => "initializing"
  | .moved => "moved"
  | .deactivated => "deactivated"
  | .deleted => "deleted"
  | .unknown word => word

def ZoneStatus.describe : ZoneStatus → String
  | .active => "Active"
  | .pending => "Pending"
  | .initializing => "Initializing"
  | .moved => "Moved"
  | .deactivated => "Deactivated"
  | .deleted => "Deleted"
  | .unknown word => s!"Unknown({Text.quote word})"

structure Zone where
  id : String
  name : String
  status : ZoneStatus
  deriving DecidableEq, Repr

/-- What a record carries besides its address. A lifetime of one second means that the provider
chooses it. -/
structure Attributes where
  ttl : UInt32 := 1
  proxied : Bool := false
  comment : String := ""
  deriving DecidableEq, Repr

structure Record where
  id : String
  address : Address
  attributes : Attributes
  deriving DecidableEq, Repr

/-- A list of an account. Only lists of addresses are managed; their kind is `ip`. -/
structure NamedList where
  id : String
  name : String
  description : String
  kind : String
  deriving DecidableEq, Repr

def NamedList.holdsAddresses (l : NamedList) : Bool := l.kind == "ip"

structure ListItem where
  id : String
  block : Block
  deriving DecidableEq

structure ListTarget where
  account : String
  name : String
  description : String := ""
  itemComment : String := ""
  deriving DecidableEq, Repr

def ListTarget.print (l : ListTarget) : String := l.account ++ "/" ++ l.name

instance : ToString ListTarget := ⟨ListTarget.print⟩

end AddressSync
