import AddressSync.Proofs.Reconcile.Requests
import AddressSync.Service.Cycle

/-! Which requests the service may come to make, whatever it is answered: those of its work, and around
each piece of work its own, for the news, the log and the deadline. -/

namespace AddressSync.Service

open Sync Reconcile Program

variable {service : Service} {P : Request → Prop} {work : Sync Report} {works : List (Sync Report)}
  {sightings : Sightings}

def detection (service : Service) : Sync Sightings := do
  emit .cycleStarted
  log .debug "Starting sync cycle" []
  service.detectAll {} service.settings.families

def afterDetection (service : Service) (sightings : Sightings) : Sync (List Report) := do
  let records ← service.publishAll sightings service.settings.families
  let lists ← service.untilStopped (service.settings.lists.map fun list => populate list sightings)
  let reports := records ++ lists
  let updated := countOutcome reports .updated
  let failed := countOutcome reports .failed
  emit (.cycleFinished updated failed)
  if 0 < failed then
    log .warn "Sync cycle finished with failures"
      [("updated", .number updated), ("failed", .number failed)]
  else
    log .debug "Sync cycle finished" [("updated", .number updated)]
  return reports

theorem cycle_eq (service : Service) :
    service.cycle = service.detection >>= service.afterDetection := rfl

section Detection

variable (logged : ∀ line, P (.log line)) (told : ∀ event, P (.emit event))
  (asked : ∀ family limit, P (.detect family limit))

include logged told asked

theorem onlyAsks_detectAll (families : List Family) :
    OnlyAsks P (service.detectAll sightings families) := by
  induction families generalizing sightings with
  | nil => exact onlyAsks_pure _
  | cons family families ih =>
    have one : OnlyAsks P (service.detectOne family) := by
      refine Asks.bind (asks_perform (asked _ _)) fun answer => ?_
      rcases answer with _ | e | address
      · exact onlyAsks_pure _
      · exact onlyAsks_pure _
      · dsimp only
        split <;> exact onlyAsks_pure _
    refine one.bind fun reply => ?_
    cases reply with
    | ok address | error e =>
      refine Asks.bind (asks_perform (logged _)) fun _ => ?_
      exact Asks.bind (asks_perform (told _)) fun _ => ih

theorem onlyAsks_detection (service : Service) : OnlyAsks P service.detection := by
  refine Asks.bind (asks_perform (told _)) fun _ => Asks.bind (asks_perform (logged _)) fun _ => ?_
  exact onlyAsks_detectAll logged told asked _

end Detection

structure Attends (service : Service) (P : Request → Prop) : Prop extends Usual P where
  emit : ∀ event, P (.emit event)
  limited : P (.limitWork (some service.updateLimit))
  unlimited : P (.limitWork none)

section Attended

variable (attends : service.Attends P)

include attends

theorem onlyAsks_emit (event : Event) : OnlyAsks P (emit event) :=
  asks_perform (attends.emit event)

theorem onlyAsks_reconcile (asks : OnlyAsks P work) : OnlyAsks P (service.reconcile work) := by
  have within : OnlyAsks P (within service.updateLimit work) :=
    Asks.bind (asks_perform attends.limited) fun _ => asks.bind fun _ =>
      Asks.bind (asks_perform attends.unlimited) fun _ => onlyAsks_pure _
  exact within.bind fun _ => (onlyAsks_emit attends _).bind fun _ => onlyAsks_pure _

theorem onlyAsks_untilStopped (each : ∀ work ∈ works, OnlyAsks P work) :
    OnlyAsks P (service.untilStopped works) := by
  induction works with
  | nil => exact onlyAsks_pure _
  | cons work works ih =>
    obtain ⟨first, rest⟩ := List.forall_mem_cons.mp each
    refine onlyAsks_unless_stopped attends.toUsual (onlyAsks_pure _) ?_
    exact (onlyAsks_reconcile attends first).bind fun _ => (ih rest).bind fun _ => onlyAsks_pure _

theorem onlyAsks_throughout (each : ∀ work ∈ works, OnlyAsks P work) :
    OnlyAsks P (service.throughout works) := by
  induction works with
  | nil => exact onlyAsks_pure _
  | cons work works ih =>
    obtain ⟨first, rest⟩ := List.forall_mem_cons.mp each
    exact (onlyAsks_reconcile attends first).bind fun _ => (ih rest).bind fun _ => onlyAsks_pure _

theorem onlyAsks_publishAll
    (published : ∀ domain family address,
      OnlyAsks P (publish domain family address service.settings.attributes))
    (families : List Family) : OnlyAsks P (service.publishAll sightings families) := by
  induction families with
  | nil => exact onlyAsks_pure _
  | cons family families ih =>
    have here : OnlyAsks P (service.publishFamily sightings family) := by
      unfold publishFamily
      dsimp only
      split
      · refine onlyAsks_untilStopped attends fun work mem => ?_
        obtain ⟨domain, -, rfl⟩ := List.mem_map.mp mem
        exact published ..
      all_goals exact (silent_log _ _ _).onlyAsks_guard attends.toUsual (onlyAsks_pure _)
    exact here.bind fun _ => ih.bind fun _ => onlyAsks_pure _

theorem onlyAsks_afterDetection
    (published : ∀ domain family address,
      OnlyAsks P (publish domain family address service.settings.attributes))
    (populated : ∀ target, OnlyAsks P (populate target sightings)) :
    OnlyAsks P (service.afterDetection sightings) := by
  refine (onlyAsks_publishAll attends published _).bind fun records => ?_
  refine (onlyAsks_untilStopped attends fun work mem => ?_).bind fun lists => ?_
  · obtain ⟨target, -, rfl⟩ := List.mem_map.mp mem
    exact populated target
  refine (onlyAsks_emit attends _).bind fun _ => ?_
  dsimp only
  split <;> exact onlyAsks_log_pure attends.toUsual _

theorem onlyAsks_announce : OnlyAsks P service.announce :=
  (onlyAsks_emit attends _).bind fun _ => onlyAsks_log attends.toUsual _ _ _

theorem onlyAsks_cleanUp (withdrawn : ∀ domain family, OnlyAsks P (withdraw domain family true))
    (retired : ∀ target, OnlyAsks P (retire target)) : OnlyAsks P service.cleanUp := by
  have usual := attends.toUsual
  have each : ∀ work ∈ service.removals, OnlyAsks P work := by
    intro work mem
    rcases List.mem_append.mp mem with mem | mem
    · obtain ⟨family, -, mem⟩ := List.mem_flatMap.mp mem
      obtain ⟨domain, -, rfl⟩ := List.mem_map.mp mem
      exact withdrawn domain family
    · obtain ⟨target, -, rfl⟩ := List.mem_map.mp mem
      exact retired target
  refine (onlyAsks_log usual _ _ _).bind fun _ => ?_
  refine (onlyAsks_revise usual stamping_flush).bind fun _ => ?_
  refine (onlyAsks_throughout attends each).bind fun reports => ?_
  dsimp only
  split
  · exact onlyAsks_log_pure usual _
  · exact onlyAsks_pure _

theorem onlyAsks_conclude (cleans : OnlyAsks P service.cleanUp) : OnlyAsks P service.conclude := by
  have usual := attends.toUsual
  have ends (result : Except Failure Unit) : OnlyAsks P (do
      emit (.stopped "Shutdown signal")
      log .info "Sync engine stopped" []
      return result) :=
    (onlyAsks_emit attends _).bind fun _ => onlyAsks_log_pure usual _
  refine (onlyAsks_log usual _ _ _).bind fun _ => ?_
  dsimp only
  split
  · exact cleans.bind ends
  · exact ends _

end Attended

end AddressSync.Service
