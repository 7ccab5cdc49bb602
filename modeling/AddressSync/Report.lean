import AddressSync.Address.Basic

/-! What one piece of work was about and how it ended. -/

namespace AddressSync

inductive Outcome
  | unchanged
  | updated
  | updating
  | failed
  deriving DecidableEq, Repr

def Outcome.word : Outcome → String
  | .unchanged => "noop"
  | .updated => "updated"
  | .updating => "updating"
  | .failed => "failed"

inductive Subject
  | records (domain : String) (family : Family)
  | list (name : String)
  deriving DecidableEq, Repr

def Subject.print : Subject → String
  | .records domain family => s!"{domain} ({family.name})"
  | .list name => "list " ++ name

/-- `stopped` tells that the work saw a request to stop and ended early. -/
structure Report where
  subject : Subject
  outcome : Outcome
  stopped : Bool := false
  deriving DecidableEq, Repr

def countOutcome (reports : List Report) (outcome : Outcome) : Nat :=
  (reports.filter (·.outcome = outcome)).length

end AddressSync
