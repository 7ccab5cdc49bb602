import AddressSync.Reconcile.Lists
import AddressSync.Reconcile.Records
import AddressSync.Settings

/-! The work of the service: cycles of detection and reconciliation, and the clean-up at the end.
Each domain and each list has a deadline of its own, and a failure of one leaves the others
alone. -/

namespace AddressSync

open Sync Reconcile

structure Service where
  settings : Settings
  provider : String
  source : String

namespace Service

def make (settings : Settings) (provider source : String) : Except Settings.Flaw Service := do
  settings.validate
  return { settings, provider, source }

def updateLimit (s : Service) : Nat := 1000 * s.settings.timing.updateLimit.toNat

def detectionLimit (s : Service) : Nat := 1000 * s.settings.timing.detectionLimit.toNat

def detectOne (s : Service) (family : Family) : Sync (Except Failure Address) := do
  match ← detect family s.detectionLimit with
  | none =>
    return .error (.detection s!"timed out after {s.settings.timing.detectionLimit.toNat}s")
  | some (.error e) => return .error e
  | some (.ok address) =>
    match family.accept address with
    | .ok address => return .ok address
    | .error e => return .error e.failure

def detectAll (s : Service) (sightings : Sightings) : List Family → Sync Sightings
  | [] => return sightings
  | family :: rest => do
    let here := [("family", .text family.name), ("source", .text s.source)]
    match ← s.detectOne family with
    | .ok address =>
      log .debug "Detected address" (here ++ [("ip", .text address.print)])
      emit (.detected family address)
      detectAll s (sightings.set family (.seen address)) rest
    | .error e =>
      log .warn s!"Failed to detect address: {e}" here
      emit (.notDetected family e.message)
      detectAll s (sightings.set family .unknown) rest

/-- Work within the deadline for one domain or list, followed by the news of how it ended. -/
def reconcile (s : Service) (work : Sync Report) : Sync Report := do
  let report ← within s.updateLimit work
  emit (.reconciled report)
  return report

def untilStopped (s : Service) : List (Sync Report) → Sync (List Report)
  | [] => return []
  | work :: rest => do
    if ← stopRequested then return []
    let report ← s.reconcile work
    return report :: (← untilStopped s rest)

def throughout (s : Service) : List (Sync Report) → Sync (List Report)
  | [] => return []
  | work :: rest => do
    let report ← s.reconcile work
    return report :: (← throughout s rest)

def publishFamily (s : Service) (sightings : Sightings) (family : Family) :
    Sync (List Report) := do
  let domains := s.settings.domains family
  match sightings.of family with
  | .seen address =>
    s.untilStopped (domains.map fun d => publish d family address s.settings.attributes)
  | .unknown | .unmanaged =>
    if !domains.isEmpty then
      log .warn "address unknown; leaving records untouched"
        [("family", .text family.name), ("domains", .number domains.length)]
    return []

def publishAll (s : Service) (sightings : Sightings) : List Family → Sync (List Report)
  | [] => return []
  | family :: rest => do
    let reports ← s.publishFamily sightings family
    return reports ++ (← publishAll s sightings rest)

def cycle (s : Service) : Sync (List Report) := do
  emit .cycleStarted
  log .debug "Starting sync cycle" []
  let sightings ← s.detectAll {} s.settings.families
  let records ← s.publishAll sightings s.settings.families
  let lists ← s.untilStopped (s.settings.lists.map fun list => populate list sightings)
  let reports := records ++ lists
  let updated := countOutcome reports .updated
  let failed := countOutcome reports .failed
  emit (.cycleFinished updated failed)
  if 0 < failed then
    log .warn "Sync cycle finished with failures"
      [("updated", .number updated), ("failed", .number failed)]
  else
    log .debug "Sync cycle finished" [("updated", .number updated)]
  return reports

def removals (s : Service) : List (Sync Report) :=
  (s.settings.families.flatMap fun family =>
    (s.settings.domains family).map fun d => withdraw d family true) ++
  s.settings.lists.map retire

def cleanUp (s : Service) : Sync (Except Failure Unit) := do
  log .info "Removing managed records and IP lists" []
  Directory.flush
  let reports ← s.throughout s.removals
  let failed := countOutcome reports .failed
  if 0 < failed then
    log .error "Final cleanup left managed resources behind" [("failed", .number failed)]
    return .error (.other s!"final cleanup failed for {failed} item(s)")
  return .ok ()

def announce (s : Service) : Sync Unit := do
  let domains := s.settings.domainCount
  let lists := s.settings.lists.length
  emit (.started domains lists)
  log .info "Sync engine started"
    [("provider", .text s.provider), ("ip_source", .text s.source), ("domains", .number domains),
      ("lists", .number lists), ("interval_secs", .number s.settings.timing.interval.toNat)]

def conclude (s : Service) : Sync (Except Failure Unit) := do
  log .info "Shutdown signal received" []
  let result ← if s.settings.timing.deleteOnStop then s.cleanUp else pure (.ok ())
  emit (.stopped "Shutdown signal")
  log .info "Sync engine stopped" []
  return result

end Service

end AddressSync
