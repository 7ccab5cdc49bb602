import AddressSync.Address.Printer
import AddressSync.Failure

/-! Which detected addresses may be published. -/

namespace AddressSync

inductive Unpublishable
  | otherFamily (family : Family) (address : Address)
  | reserved (address : Address)
  | mapped (address : Address)
  deriving DecidableEq, Repr

def Unpublishable.failure : Unpublishable → Failure
  | .otherFamily family address => .detection s!"{address} is not an {family.name} address"
  | .reserved address => .detection s!"{address} is not usable as a public address"
  | .mapped address => .detection s!"{address} is an IPv4-mapped address"

def Family.accept (family : Family) (address : Address) : Except Unpublishable Address :=
  if address.family ≠ family then .error (.otherFamily family address)
  else if address.isUnspecified || address.isLoopback || address.isMulticast then
    .error (.reserved address)
  else if address.isMapped then .error (.mapped address)
  else .ok address

end AddressSync
