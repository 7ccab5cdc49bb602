import AddressSync.Report

/-! What the service tells those who watch it. -/

namespace AddressSync

inductive Event
  | started (domains lists : Nat)
  | cycleStarted
  | detected (family : Family) (address : Address)
  | notDetected (family : Family) (message : String)
  | reconciled (report : Report)
  | cycleFinished (updated failed : Nat)
  | stopped (reason : String)
  deriving DecidableEq

end AddressSync
