import AddressSync.Proofs.Reconcile.Containment
import AddressSync.Proofs.Service.Requests
import AddressSync.Proofs.Settings.Validation
import AddressSync.Proofs.Surroundings.Waited

/-! Two cycles of the service from one world, among faults that differ only in what regards the records
of one name. They tell the same of everything else, and leave the same of it at the provider. -/

namespace AddressSync

open Sync Simulation Program

open List (Forall₂)

theorem Settings.updateLimit_ne_zero {s : Settings} (valid : s.validate = .ok ()) :
    s.timing.updateLimit ≠ 0 :=
  (Timing.validate_eq_ok_iff.mp (validate_eq_ok_iff.mp valid).timing).2.2.1

namespace Simulation

def Provider.shelves (p : Provider) : List (String × String × List Block) :=
  p.lists.map fun l => (l.account, l.list.name, (p.itemsOf l.list.id).map ListItem.block)

theorem Twins.Alike.shelves_eq {T : Twins} {name : String} {p p' : Provider}
    (h : T.Alike name p p') : p.shelves = p'.shelves := by
  refine h.lists.map_eq fun l l' same => ?_
  rw [same.account, same.list.name, Twins.blocks_eq (h.items _ _ same.list.id)]

end Simulation

namespace Service

open World Reconcile Scene

section

variable {service : Service} {work : Sync Report} {works : List (Sync Report)} {sightings : Sightings}

theorem watches_detectAll (families : List Family) :
    OnlyAsks Watches (service.detectAll sightings families) :=
  onlyAsks_detectAll (fun _ => trivial) (fun _ => trivial) (fun _ _ => trivial) families

theorem prompt_of_calls {Q : Call → Prop} (only : OnlyAsks (Calls Q) work) : OnlyAsks Prompt work := by
  refine Asks.mono only fun r allowed => ?_
  cases r with
  | detect | limitWork => exact allowed.elim
  | call | look | revise | stopRequested | log | emit => trivial

theorem attends_prompt (positive : 0 < service.updateLimit) : service.Attends Prompt where
  revise _ _ := trivial
  stopRequested := trivial
  log _ := trivial
  emit _ := trivial
  limited := fun
    | _, rfl => positive
  unlimited := nofun

theorem prompt_afterDetection (positive : 0 < service.updateLimit) (sightings : Sightings) :
    OnlyAsks Prompt (service.afterDetection sightings) :=
  onlyAsks_afterDetection (attends_prompt positive)
    (fun _ _ _ => prompt_of_calls (onlyCalls_publish ..))
    fun _ => prompt_of_calls (onlyCalls_populate ..)

variable {F F' : List Fault} {I : Scene → Scene → Prop} {Q : Report → Report → Prop}

theorem abreast_untilStopped (each : ∀ work ∈ works, Abreast F F' I Q work work) :
    Abreast F F' I (Forall₂ Q) (service.untilStopped works) (service.untilStopped works) := by
  induction works with
  | nil => exact abreast_pure .nil
  | cons work works ih =>
    obtain ⟨first, rest⟩ := List.forall_mem_cons.mp each
    have one : Abreast F F' I Q (service.reconcile work) (service.reconcile work) :=
      (abreast_within first).bind fun _ _ same => abreast_emit (abreast_pure same)
    refine abreast_unless_stopped (one.bind fun _ _ same => ?_)
    exact (ih rest).bind fun _ _ more => abreast_pure (.cons same more)

theorem abreast_publishAll {families : List Family}
    (each : ∀ family, ∀ domain ∈ service.settings.domains family, ∀ address,
      Abreast F F' I Q (publish domain family address service.settings.attributes)
        (publish domain family address service.settings.attributes)) :
    Abreast F F' I (Forall₂ Q) (service.publishAll sightings families)
      (service.publishAll sightings families) := by
  induction families with
  | nil => exact abreast_pure .nil
  | cons family families ih =>
    have here : Abreast F F' I (Forall₂ Q) (service.publishFamily sightings family)
        (service.publishFamily sightings family) := by
      unfold publishFamily
      dsimp only
      split
      · refine abreast_untilStopped fun work mem => ?_
        obtain ⟨domain, listed, rfl⟩ := List.mem_map.mp mem
        exact each family domain listed _
      all_goals
        refine abreast_guard (silent_log _ _ _) (silent_log _ _ _) ?_
        exact abreast_pure .nil
    exact here.bind fun _ _ first => ih.bind fun _ _ rest => abreast_pure (List.rel_append first rest)

theorem abreast_afterDetection {p : Provider} {name : String} (differ : p.DifferOn name F F')
    (parsed : ∀ family, ∀ domain ∈ service.settings.domains family, domain.IsParsed) :
    Abreast F F' (Kindred p name F F') (Forall₂ (Report.SameBut name))
      (service.afterDetection sightings) (service.afterDetection sightings) := by
  have lists : ∀ work ∈ service.settings.lists.map fun list => populate list sightings,
      Abreast F F' (Kindred p name F F') (Report.SameBut name) work work := by
    intro work mem
    obtain ⟨target, _, rfl⟩ := List.mem_map.mp mem
    exact (abreast_populate_kindred differ target sightings).mono fun _ _ same =>
      ⟨congrArg Report.subject same, fun _ => same⟩
  refine (abreast_publishAll fun family domain mem address =>
    abreast_publish_kindred differ (parsed family domain mem) family address _).bind
      fun records records' first => ?_
  refine (abreast_untilStopped lists).bind fun lists lists' rest => abreast_emit ?_
  have all := List.rel_append first rest
  dsimp only
  split <;> split <;> exact abreast_silent (silent_log _ _ _) (silent_log _ _ _) (abreast_pure all)

end

/-- Failures stay with the domain that they are about. Where calls take no time and nothing stops the
work, two cycles among lasting faults that differ only in what regards the records of one name report
on the same subjects in the same order, and the same of each but the records of that name; and then the
provider has the same addresses at every other name, and the same prefixes in every list. -/
theorem cycle_contained {service : Service} {w : World} {name : String} {F F' : List Fault}
    (valid : service.settings.validate = .ok ())
    (parsed : ∀ family, ∀ domain ∈ service.settings.domains family, domain.IsParsed)
    (calm : w.Calm) (swift : ∀ kind, w.latency kind = 0) (orderly : w.scene.Orderly)
    (apart : w.provider.ItemsApart) (differ : w.provider.DifferOn name F F') :
    let ended := (w.among F).run service.cycle
    let ended' := (w.among F').run service.cycle
    Forall₂ (Report.SameBut name) ended.1 ended'.1 ∧
      (∀ zone other family, other ≠ name →
        (ended.2.provider.recordsOf zone other family).map Record.address =
          (ended'.2.provider.recordsOf zone other family).map Record.address) ∧
      ended.2.provider.shelves = ended'.2.provider.shelves := by
  have watches : OnlyAsks Watches service.detection := by
    refine Asks.bind (asks_perform trivial) fun _ => Asks.bind (asks_perform trivial) fun _ => ?_
    exact watches_detectAll _
  -- No call is made before the addresses are known, so that up to there the two runs are one. From then
  -- on time stands still.
  obtain ⟨waited, alike⟩ := run_waited calm watches
  have split (faults : List Fault) : (w.among faults).run service.cycle =
      ((w.run service.detection).2.among faults).run
        (service.afterDetection (w.run service.detection).1) := by
    rw [cycle_eq]
    refine (Program.run_bind World.answer service.detection service.afterDetection _).trans ?_
    change ((w.among faults).run service.detection).2.run
      (service.afterDetection ((w.among faults).run service.detection).1) = _
    rw [alike faults]
  generalize (w.run service.detection).1 = sightings at split
  generalize (w.run service.detection).2 = w₁ at waited split
  have positive : 0 < service.updateLimit := by
    have some : service.settings.timing.updateLimit.toNat ≠ 0 := fun none =>
      Settings.updateLimit_ne_zero valid (UInt64.toNat_inj.mp none)
    unfold updateLimit
    omega
  have run (faults : List Fault) (lasting : ∀ f ∈ faults, f.left = none) :
      ((w.among faults).run service.cycle).1 =
          (w₁.scene.run faults (service.afterDetection sightings)).1 ∧
        ((w.among faults).run service.cycle).2.scene =
          (w₁.scene.run faults (service.afterDetection sightings)).2 := by
    have free := waited.calm.deadline
    have still : (w₁.among faults).Still faults := by
      refine ⟨waited.calm.undisturbed, waited.calm.stop, fun n mem => ?_, fun kind => ?_, rfl⟩
      · change n ∈ w₁.deadline at mem
        rw [free] at mem
        cases mem
      · change (w₁.latencies.lookup kind).getD 0 = 0
        rw [waited.latencies]
        exact swift kind
    rw [split]
    exact still.run lasting (prompt_afterDetection positive sightings)
  have provider : w₁.scene.provider = w.provider := congrArg Scene.provider waited.scene
  have start : w₁.scene.Kindred w.provider name F F' w₁.scene := by
    rw [← provider] at differ apart ⊢
    refine kindred_self ?_ apart differ
    rw [waited.scene]
    exact ⟨orderly.numbered, orderly.coherent.pass waited.later⟩
  obtain ⟨reports, T, proper, stems, companions⟩ :=
    abreast_afterDetection differ parsed w₁.scene w₁.scene start
  obtain ⟨lasting, lasting'⟩ := List.forall_mem_append.mp differ.lasting
  have left := run F lasting
  have right := run F' lasting'
  have alike := companions.twinned.provider
  rw [← left.2, ← right.2] at alike
  rw [← left.1, ← right.1] at reports
  refine ⟨reports, fun zone other family spared => ?_, alike.shelves_eq⟩
  exact (alike.recordsOf spared).map_eq fun _ _ same => same.address

def vacant : World where
  provider.zones := [⟨"z", "example.com", .active⟩]
  sightsV4 := [.address (.v4 0xCB007107) 10]
  caches := .empty 60000

def neighbours : Service where
  settings.access.token := "t"
  settings.domainsV4 := some [.plain "www.example.com", .plain "api.example.com"]
  settings.lists := [stock]
  provider := Provider.name
  source := sourceName

def nuisance (kind : Kind) (effective : Bool) : Fault :=
  ⟨kind, some "www.example.com", none, .other "down", effective⟩

theorem cycle_contained_neighbours : neighbours.settings.validate = .ok () ∧
    let ended := (vacant.among [nuisance .createRecord true]).run neighbours.cycle
    let ended' := (vacant.among [nuisance .listRecords false]).run neighbours.cycle
    let api := fun p : Provider => p.recordsOf "z" "api.example.com" .v4
    Forall₂ (Report.SameBut "www.example.com") ended.1 ended'.1 ∧
      ended.1.map Report.outcome = [.failed, .updated, .updated] ∧
      (api ended.2.provider).map Record.id = ["rec-2"] ∧
      (api ended'.2.provider).map Record.id = ["rec-1"] ∧
      (api ended.2.provider).map Record.address = (api ended'.2.provider).map Record.address ∧
      ended.2.provider.shelves = ended'.2.provider.shelves := by
  have valid : neighbours.settings.validate = .ok () := by rfl
  have calm : vacant.Calm := ⟨rfl, rfl, rfl⟩
  have numbered : vacant.scene.provider.Numbered :=
    (Provider.sound_of_zones [⟨"z", "example.com", .active⟩] 0).toNumbered
  have apart : vacant.provider.ItemsApart :=
    Provider.itemsApart_empty.of_same (fun _ => rfl) (Nat.le_refl 0)
  have parsed : ∀ family, ∀ domain ∈ neighbours.settings.domains family, domain.IsParsed := by
    intro family domain mem
    cases family with
    | v4 =>
      rcases List.mem_pair.mp mem with rfl | rfl
      · exact ⟨"www.example.com", by rfl⟩
      · exact ⟨"api.example.com", by rfl⟩
    | v6 => cases mem
  have differ : vacant.provider.DifferOn "www.example.com" [nuisance .createRecord true]
      [nuisance .listRecords false] := by
    refine ⟨?_, ?_, fun kind target other => ?_⟩
    · simp [nuisance]
    · simp [nuisance, Kind.Awaits]
    · cases kind with
      | createRecord | listRecords =>
        have other : "www.example.com" ≠ target := Ne.symm other
        simp [struck?, nuisance, Fault.hits, other]
      | _ => rfl
  obtain ⟨reports, addresses, prefixes⟩ :=
    cycle_contained valid parsed calm (fun _ => rfl) ⟨numbered, coherentOn_empty⟩ apart differ
  exact ⟨valid, reports, by rfl, by rfl, by rfl, addresses "z" _ .v4 (by decide), prefixes⟩

end Service

end AddressSync
