import AddressSync.Proofs.Reconcile.Overrun
import AddressSync.Proofs.Service.CleanUp

/-! What the deadline of each domain and list is worth. A call under way when it passes is not the last
one: as many may follow as the zone may have names, and two. But none of them removes a record or an
item. -/

namespace AddressSync

open Sync Simulation Reconcile Clock

namespace Service

variable {α β : Type} {n : Nat} {s s' : Clock} {p : Sync α} {es es' : List Pulse}
  {service : Service}

/-- The notes of pieces of work done one after the other, each under a deadline of its own. -/
inductive Paced (n : Nat) : List Pulse → Prop
  | nil : Paced n []
  | limited {es es' : List Pulse} (work : Overrun n es) (rest : Paced n es') :
    Paced n (.limited :: (es ++ es'))

theorem Paced.append (first : Paced n es) (rest : Paced n es') : Paced n (es ++ es') := by
  induction first with
  | nil => exact rest
  | limited work _ ih =>
    rw [List.cons_append, List.append_assoc]
    exact .limited work ih

def Paces (n : Nat) (p : Sync α) : Prop := ∀ s, Clock.Ensures p s fun es _ _ => Paced n es

theorem paces_pure (a : α) : Paces n (pure a : Sync α) :=
  fun _ => Program.ensures_pure_iff.mpr .nil

theorem Paces.bind {f : α → Sync β} (first : Paces n p) (rest : ∀ a, Paces n (f a)) :
    Paces n (p >>= f) :=
  fun s => Program.Ensures.bind (first s) fun _ a s' before =>
    (rest a s').mono fun _ _ _ after => before.append after

theorem paces_silent {p : Sync Unit} {f : Unit → Sync β} (silent : Silent p)
    (rest : Paces n (f ())) : Paces n (p >>= f) :=
  fun s => ensures_silent silent (rest s)

theorem paces_emit {event : Event} {f : Unit → Sync β} (rest : Paces n (f ())) :
    Paces n (emit event >>= f) :=
  fun s => ensures_emit (rest s)

/-- A piece of work begins with its deadline and ends with that lifted. -/
theorem paces_reconcile {work : Sync Report} (overruns : ∀ s, Overruns n work s) :
    Paces n (service.reconcile work) := by
  intro s
  have within : Clock.Ensures (within service.updateLimit work) s fun es _ _ => Paced n es := by
    refine ensures_limitWork (Program.Ensures.bind (overruns _) fun es report s' overrun => ?_)
    refine ensures_limitWork (Program.ensures_pure_iff.mpr ?_)
    exact .limited overrun (.limited overrun_nil .nil)
  refine within.bind fun es report s' paced => ?_
  refine ensures_emit (Program.ensures_pure_iff.mpr ?_)
  rwa [List.append_nil]

theorem paces_untilStopped {works : List (Sync Report)}
    (each : ∀ work ∈ works, ∀ s, Overruns n work s) : Paces n (service.untilStopped works) := by
  induction works with
  | nil => exact paces_pure []
  | cons work works ih =>
    obtain ⟨first, rest⟩ := List.forall_mem_cons.mp each
    refine fun s => ensures_stopRequested (paces_pure [] s) fun _ => ?_
    exact (paces_reconcile first).bind (fun report => (ih rest).bind fun _ => paces_pure _) s

theorem paces_throughout {works : List (Sync Report)}
    (each : ∀ work ∈ works, ∀ s, Overruns n work s) : Paces n (service.throughout works) := by
  induction works with
  | nil => exact paces_pure []
  | cons work works ih =>
    obtain ⟨first, rest⟩ := List.forall_mem_cons.mp each
    exact (paces_reconcile first).bind fun report => (ih rest).bind fun _ => paces_pure _

theorem paces_detectAll (sightings : Sightings) (families : List Family) :
    Paces n (service.detectAll sightings families) := by
  induction families generalizing sightings with
  | nil => exact paces_pure sightings
  | cons family rest ih =>
    have one : Paces n (service.detectOne family) := by
      refine fun s => ensures_detect fun answer s' => ?_
      rcases answer with _ | e | address
      · exact paces_pure _ s'
      · exact paces_pure _ s'
      · dsimp only
        split <;> exact paces_pure _ s'
    refine one.bind fun reply => ?_
    cases reply with
    | ok address | error e => exact paces_silent (silent_log _ _ _) (paces_emit (ih _))

section

variable (some : 0 < n) (names : ∀ family ∈ service.settings.families,
  ∀ domain ∈ service.settings.domains family, domain.zoneNames.length ≤ n)

include some names

theorem paces_publishAll {sightings : Sightings} {families : List Family}
    (within : families ⊆ service.settings.families) :
    Paces (n + 2) (service.publishAll sightings families) := by
  induction families with
  | nil => exact paces_pure []
  | cons family families ih =>
    obtain ⟨managed, within⟩ := List.cons_subset.mp within
    have here : Paces (n + 2) (service.publishFamily sightings family) := by
      unfold publishFamily
      dsimp only
      split
      · next address sighted =>
        refine paces_untilStopped fun work mem s => ?_
        obtain ⟨domain, listed, rfl⟩ := List.mem_map.mp mem
        have few := names family managed domain listed
        exact (overruns_publish address _).mono (by omega)
      all_goals
        split
        · exact paces_silent (silent_log _ _ _) (paces_pure [])
        · exact paces_pure []
    exact here.bind fun reports => (ih within).bind fun more => paces_pure _

theorem paces_cycle : Paces (n + 2) service.cycle := by
  refine paces_emit (paces_silent (silent_log _ _ _) ?_)
  refine (paces_detectAll {} _).bind fun sightings => ?_
  refine (paces_publishAll some names (List.Subset.refl _)).bind fun records => ?_
  refine (paces_untilStopped fun work mem s => ?_).bind fun lists => paces_emit ?_
  · obtain ⟨target, _, rfl⟩ := List.mem_map.mp mem
    exact (overruns_populate sightings).mono (by omega)
  · dsimp only
    split <;> exact paces_silent (silent_log _ _ _) (paces_pure _)

theorem paces_cleanUp : Paces (n + 2) service.cleanUp := by
  refine paces_silent (silent_log _ _ _) fun s => ensures_revise ?_
  have each : ∀ work ∈ service.removals, ∀ s, Overruns (n + 2) work s := by
    intro work mem s
    rcases List.mem_append.mp mem with mem | mem
    · obtain ⟨family, managed, mem⟩ := List.mem_flatMap.mp mem
      obtain ⟨domain, listed, rfl⟩ := List.mem_map.mp mem
      have few := names family managed domain listed
      exact (overruns_withdraw true).mono (by omega)
    · obtain ⟨target, _, rfl⟩ := List.mem_map.mp mem
      exact overruns_retire.mono (by omega)
  refine (paces_throughout each).bind (fun reports => ?_) s
  dsimp only
  split
  · exact paces_silent (silent_log _ _ _) (paces_pure _)
  · exact paces_pure _

end

/-- Under one deadline there are not many calls past it, in a cycle as in a clean-up: at most two more
than a zone may have names. None of them is the first call of its work on a list or the removal of a
record or of items. -/
theorem paced_of_run (some : 0 < n) (names : ∀ family ∈ service.settings.families,
    ∀ domain ∈ service.settings.domains family, domain.zoneNames.length ≤ n) :
    (∀ es reports, Clock.Runs service.cycle s es reports s' → Paced (n + 2) es) ∧
      ∀ es result, Clock.Runs service.cleanUp s es result s' → Paced (n + 2) es :=
  ⟨fun es reports run => paces_cycle some names s es reports s' run,
    fun es result run => paces_cleanUp some names s es result s' run⟩

def sluggish : World where
  provider.zones := [⟨"z", "example.com", .active⟩]
  provider.records := [⟨"z", "www.example.com", ⟨"a", .v4 1, {}⟩⟩]
  latencies := [(.listZones, 31000)]
  sightsV4 := [.address (.v4 0xcb007107) 0]
  caches := .empty 60000

theorem paced_of_run_sluggish : keeper.settings.validate = .ok () ∧
    (∃ es reports s', Clock.Runs keeper.cycle sluggish.clock es reports s' ∧ Paced 5 es ∧
      es.countP Pulse.isLate = 3) ∧
    ∃ es result s', Clock.Runs keeper.cleanUp sluggish.clock es result s' ∧ Paced 5 es ∧
      es.countP Pulse.isLate = 2 := by
  have names : ∀ family ∈ keeper.settings.families,
      ∀ domain ∈ keeper.settings.domains family, domain.zoneNames.length ≤ 3 := by decide
  have cycle := World.clock_run keeper.cycle sluggish
  have cleanUp := World.clock_run keeper.cleanUp sluggish
  refine ⟨by rfl, ⟨_, _, _, cycle, (paced_of_run (by decide) names).1 _ _ cycle, by decide⟩, ?_⟩
  exact ⟨_, _, _, cleanUp, (paced_of_run (by decide) names).2 _ _ cleanUp, by decide⟩

end Service

end AddressSync
