import AddressSync.Proofs.Reconcile.Restraint
import AddressSync.Proofs.Service.Sighting
import AddressSync.Proofs.Service.Work

/-! A cycle publishes no address but one that the source gave for the family, and leaves alone what it
knows no address for: the records of a family that was missed or is not managed, and the items of a
family that was missed. -/

namespace AddressSync

open Sync Simulation Reconcile Scene

def Call.CarriesOnly (known : Family → Address → Prop) : Call → Prop
  | .createRecord _ _ family address _ | .updateRecord _ _ family _ address => known family address
  | .createItems _ _ blocks _ | .replaceItems _ _ blocks =>
    ∀ block ∈ blocks, ∃ family address, known family address ∧ block = address.listedBlock
  | _ => True

theorem Call.CarriesOnly.mono {known known' : Family → Address → Prop} {c : Call}
    (h : c.CarriesOnly known) (weaken : ∀ family address, known family address →
      known' family address) : c.CarriesOnly known' := by
  cases c with
  | createRecord | updateRecord => exact weaken _ _ h
  | createItems | replaceItems =>
    intro block mem
    obtain ⟨family, address, known, same⟩ := h block mem
    exact ⟨family, address, weaken family address known, same⟩
  | _ => trivial

def Moment.SparesRecords (family : Family) : Moment → Prop
  | .called (.listRecords _ _ family') .. | .called (.createRecord _ _ family' ..) ..
  | .called (.updateRecord _ _ family' ..) .. => family' ≠ family
  | .called (.deleteRecord _ id) _ before _ =>
    ∀ r ∈ before.records, r.record.id = id → r.record.address.family ≠ family
  | _ => True

namespace Service

variable {service : Service} {families : List Family} {sightings : Sightings} {start : Provider}
  {s s' : Scene} {es : List Moment} {m : Moment} {reports : List Report} {domain : Domain}
  {family : Family} {address : Address} {attributes : Attributes}

def Spared (families : List Family) (sightings : Sightings) (family : Family) : Prop :=
  family ∈ families → ∀ address, sightings.of family ≠ .seen address

/-- The moment is as safe as what is known of the addresses demands. -/
structure Safe (families : List Family) (sightings : Sightings) (start : Provider) (m : Moment) :
    Prop where
  carries : ∀ c reply before after, m = .called c reply before after →
    c.CarriesOnly fun family address => sightings.of family = .seen address
  spares : ∀ family, Spared families sightings family → m.SparesRecords family
  retains : m.Throughout (Retains sightings start)

structure Later (families : List Family) (sightings : Sightings) (start : Provider) (m : Moment) :
    Prop where
  safe : Safe families sightings start m
  unanswered : ∀ family, m.answer? family = none

structure Steady (sightings : Sightings) (start : Provider) (s : Scene) : Prop where
  orderly : s.Orderly
  retains : Retains sightings start s.provider

theorem later_asked (answer : Bool) : Later families sightings start (.stopAsked answer) where
  safe := ⟨fun _ _ _ _ same => (nomatch same), fun _ _ => trivial, trivial⟩
  unanswered _ := rfl

theorem later_told (event : Event) (retains : Retains sightings start s.provider) :
    Later families sightings start (.told event s.provider) where
  safe := ⟨fun _ _ _ _ same => (nomatch same), fun _ _ => trivial, retains⟩
  unanswered _ := rfl

theorem carriesOnly_of_publishes {c : Call} (sighted : sightings.of family = .seen address)
    (publishes : Publishes domain family address c) :
    c.CarriesOnly fun family address => sightings.of family = .seen address := by
  cases c with
  | createRecord | updateRecord =>
    obtain ⟨_, rfl, rfl⟩ := publishes
    exact sighted
  | createItems | replaceItems => cases publishes
  | _ => trivial

theorem carriesOnly_of_populates {c : Call} (populates : Populates sightings c) :
    c.CarriesOnly fun family address => sightings.of family = .seen address := by
  cases c with
  | createRecord | updateRecord | replaceItems => cases populates
  | createItems => exact populates
  | _ => trivial

theorem later_of_publishes (sighted : sightings.of family = .seen address)
    (enabled : family ∈ families) (asks : m.Asks (Publishes domain family address))
    (deletes : m.DeletesOf family) (retains : m.Throughout (Retains sightings start)) :
    Later families sightings start m := by
  cases m with
  | detected | told => cases asks
  | stopAsked answer => exact later_asked answer
  | called c reply before after =>
    refine ⟨⟨?_, fun other spared => ?_, retains⟩, fun _ => rfl⟩
    · rintro c' reply' before' after' same
      cases same
      exact carriesOnly_of_publishes sighted asks
    · have ne : family ≠ other := by
        rintro rfl
        exact spared enabled address sighted
      cases c with
      | listRecords =>
        obtain ⟨_, rfl⟩ := asks
        exact ne
      | createRecord | updateRecord =>
        obtain ⟨_, rfl, _⟩ := asks
        exact ne
      | deleteRecord =>
        intro r mem same
        rw [deletes r mem same]
        exact ne
      | _ => trivial

theorem later_of_populates (asks : m.Asks (Populates sightings))
    (retains : m.Throughout (Retains sightings start)) : Later families sightings start m := by
  cases m with
  | detected | told => cases asks
  | stopAsked answer => exact later_asked answer
  | called c reply before after =>
    refine ⟨⟨?_, fun other _ => ?_, retains⟩, fun _ => rfl⟩
    · rintro c' reply' before' after' same
      cases same
      exact carriesOnly_of_populates asks
    · cases c with
      | listRecords | createRecord | updateRecord | deleteRecord => cases asks
      | _ => trivial

theorem keeps_publish (enabled : family ∈ families) (sighted : sightings.of family = .seen address)
    (parsed : domain.IsParsed) :
    Keeps (Steady sightings start) (Later families sightings start)
      (publish domain family address attributes) := by
  intro s steady es report s' run
  obtain ⟨orderly, deletes⟩ :=
    ensures_publish_orderly steady.orderly parsed family address attributes es report s' run
  obtain ⟨always, asks⟩ := ensures_publish_retains steady.retains es report s' run
  refine ⟨⟨orderly, always.last⟩, fun m mem => ?_⟩
  exact later_of_publishes sighted enabled (asks m mem) (deletes m mem) (always.moments m mem)

theorem keeps_populate (target : ListTarget) :
    Keeps (Steady sightings start) (Later families sightings start) (populate target sightings) := by
  intro s steady es report s' run
  have populated := ensures_populate steady.orderly.coherent target sightings es report s' run
  have always := populated.always steady.orderly.numbered steady.retains
  have asks : ∀ m ∈ es, m.Asks (Populates sightings) := by
    have only := (onlyCalls_populate target sightings).ensures (P := fun _ => True) (s := s)
      (fun _ _ _ _ => trivial) trivial
    exact (only es report s' run).2
  refine ⟨⟨populated.orderly steady.orderly, always.last⟩, fun m mem => ?_⟩
  exact later_of_populates (asks m mem) (always.moments m mem)

theorem ensures_cycle (h : s.Orderly) (apart : s.provider.ItemsApart)
    (parsed : ∀ family, ∀ domain ∈ service.settings.domains family, domain.IsParsed) :
    Sync.Ensures service.cycle s fun es _ s' => ∃ es₁ es₂ sightings s₁,
      es = .told .cycleStarted s.provider :: (es₁ ++ es₂) ∧
        Sighted {} service.settings.families s es₁ sightings s₁ ∧
          Retains sightings s.provider s'.provider ∧
            ∀ m ∈ es₂, Later service.settings.families sightings s.provider m := by
  refine ensures_emit_iff.mpr (ensures_log_iff.mpr ?_)
  refine (ensures_detectAll {} service.settings.families s).bind fun es₁ sightings s₁ sighted => ?_
  have steady : Steady sightings s.provider s₁ := by
    rw [sighted.scene]
    exact ⟨⟨h.numbered, h.coherent.pass sighted.later⟩, apart, fun family _ => .refl _ family⟩
  have told (s' : Scene) (event : Event) (steady : Steady sightings s.provider s') :
      Later service.settings.families sightings s.provider (.told event s'.provider) :=
    later_told event steady.retains
  have rest : Keeps (Steady sightings s.provider)
      (Later service.settings.families sightings s.provider) (do
        let records ← service.publishAll sightings service.settings.families
        let lists ← service.untilStopped (service.settings.lists.map fun list => populate list sightings)
        let reports := records ++ lists
        let updated := countOutcome reports .updated
        let failed := countOutcome reports .failed
        emit (.cycleFinished updated failed)
        if 0 < failed then
          log .warn "Sync cycle finished with failures"
            [("updated", .number updated), ("failed", .number failed)]
        else
          log .debug "Sync cycle finished" [("updated", .number updated)]
        return reports) := by
    refine (keeps_publishAll later_asked told fun family enabled address sighted domain mem => ?_).bind
      fun records => ?_
    · exact keeps_publish enabled sighted (parsed family domain mem)
    refine (keeps_untilStopped later_asked told fun work mem => ?_).bind fun lists => ?_
    · obtain ⟨target, _, rfl⟩ := List.mem_map.mp mem
      exact keeps_populate target
    refine (keeps_emit told _).bind fun _ => ?_
    split
    all_goals exact (silent_log _ _ _).keeps.bind fun _ => keeps_pure _
  refine (rest s₁ steady).mono fun es₂ reports s' ⟨last, later⟩ => ?_
  exact ⟨es₁, es₂, sightings, s₁, rfl, sighted, last.retains, later⟩

/-- The calls of a cycle carry only addresses that the source gave last for their family and that may
be published. Where it gave none for a family that is managed, no call about records of the family is
made, and no list loses or gains an item of it at any instant; and no call is made about records of a
family that is not managed. -/
theorem cycle_safe (h : s.Orderly) (apart : s.provider.ItemsApart)
    (parsed : ∀ family, ∀ domain ∈ service.settings.domains family, domain.IsParsed)
    (run : Sync.Runs service.cycle s es reports s') :
    (∀ c reply before after, .called c reply before after ∈ es → c.CarriesOnly (Detects es)) ∧
    (∀ family ∈ service.settings.families, (∀ address, ¬ Detects es family address) →
      (∀ m ∈ es, m.SparesRecords family) ∧ s.Always (s.provider.SameItems family) es s') ∧
    ∀ family ∉ service.settings.families, ∀ m ∈ es, m.SparesRecords family := by
  obtain ⟨es₁, es₂, sightings, s₁, rfl, sighted, last, later⟩ :=
    ensures_cycle h apart parsed es reports s' run
  have start : Retains sightings s.provider s.provider := ⟨apart, fun family _ => .refl _ family⟩
  -- The source is asked in the first part only, so its last word is the one that was heard there.
  have same (family : Family) :
      answers family (.told .cycleStarted s.provider :: (es₁ ++ es₂)) = answers family es₁ := by
    have none : answers family es₂ = [] := answers_eq_nil fun m mem => (later m mem).unanswered family
    change answers family ([.told .cycleStarted s.provider] ++ (es₁ ++ es₂)) = answers family es₁
    rw [answers_append, answers_append, none, List.append_nil]
    rfl
  have detects (family : Family) (address : Address) :
      Detects (.told .cycleStarted s.provider :: (es₁ ++ es₂)) family address ↔
        Detects es₁ family address := by
    rw [Detects, same, Detects]
  have safe : ∀ m ∈ .told .cycleStarted s.provider :: (es₁ ++ es₂),
      Safe service.settings.families sightings s.provider m := by
    refine List.forall_mem_cons.mpr ⟨(later_told _ start).safe, List.forall_mem_append.mpr ⟨?_, ?_⟩⟩
    · intro m mem
      rcases sighted.moments m mem with ⟨family, answer, rfl⟩ | ⟨event, rfl⟩
      · exact ⟨fun _ _ _ _ same => (nomatch same), fun _ _ => trivial, trivial⟩
      · exact (later_told event start).safe
    · exact fun m mem => (later m mem).safe
  refine ⟨fun c reply before after mem => ?_, fun family enabled missed => ⟨fun m mem => ?_, ?_⟩,
    fun family other m mem => ?_⟩
  · refine ((safe _ mem).carries c reply before after rfl).mono fun family address seen => ?_
    exact (detects family address).mpr (sighted.detects seen)
  · refine (safe m mem).spares family fun _ address seen => ?_
    exact missed address ((detects family address).mpr (sighted.detects seen))
  · have unknown : sightings.of family = .unknown :=
      sighted.unknown enabled fun address found => missed address ((detects family address).mpr found)
    have goal := goal_of_unknown unknown
    refine ⟨.refl _ family, fun m mem => ?_, last.same family goal⟩
    exact (safe m mem).retains.imp fun p retains => retains.same family goal
  · exact (safe m mem).spares family fun enabled => absurd enabled other

def shelf : Provider :=
  (((({ zones := [⟨"z", "example.com", .active⟩] } : Provider).perform
    (.createList "acct" "hosts" "")).2).perform
      (.createItems "acct" "list-1" [(Address.v6 1).listedBlock] "")).2

def dim : World where
  provider := shelf
  sightsV4 := [.address (.v4 0xCB007107) 10]
  sightsV6 := [.silence]
  caches := .empty 60000

def warden : Service where
  settings.access.token := "t"
  settings.domainsV4 := some [.plain "www.example.com"]
  settings.domainsV6 := some [.plain "www.example.com"]
  settings.lists := [stock]
  provider := Provider.name
  source := sourceName

theorem cycle_safe_dim : warden.settings.validate = .ok () ∧ ∃ es reports s',
    Sync.Runs warden.cycle dim.scene es reports s' ∧ Detects es .v4 (.v4 0xCB007107) ∧
      (s'.provider.listing (.plain "www.example.com") .v4).map Record.address = [.v4 0xCB007107] ∧
        (∀ m ∈ es, m.SparesRecords .v6) ∧
          (s'.provider.itemsOf "list-1").map ListItem.id = ["item-2", "item-4"] := by
  have undisturbed : dim.Undisturbed := rfl
  have run := World.runs_trace warden.cycle undisturbed
  have heard : answers .v4 (dim.trace warden.cycle) = [some (.ok (.v4 0xCB007107))] := by rfl
  have unheard : answers .v6 (dim.trace warden.cycle) = [none] := by rfl
  have seen : Detects (dim.trace warden.cycle) .v4 (.v4 0xCB007107) := by
    refine ⟨?_, rfl, by decide, by decide, by decide, rfl⟩
    rw [heard]
    rfl
  have missed : ∀ address, ¬ Detects (dim.trace warden.cycle) .v6 address := by
    rintro address ⟨last, _⟩
    rw [unheard] at last
    cases last
  have numbered : dim.scene.provider.Numbered := by
    have zoned := (Provider.sound_of_zones [⟨"z", "example.com", .active⟩] 0).toNumbered
    have listed := zoned.perform (c := .createList "acct" "hosts" "") trivial
    exact listed.perform ⟨⟨"list-1", "hosts", "", "ip"⟩, by decide, rfl⟩
  have apart : dim.scene.provider.ItemsApart := by
    have zoned : ({ zones := [⟨"z", "example.com", .active⟩] } : Provider).ItemsApart :=
      Provider.itemsApart_empty.of_same (fun _ => rfl) (Nat.le_refl 0)
    exact (zoned.perform _).perform _
  have parsed : ∀ family, ∀ domain ∈ warden.settings.domains family, domain.IsParsed := by
    intro family domain mem
    have here : domain = .plain "www.example.com" := by
      cases family <;> exact List.mem_singleton.mp mem
    rw [here]
    exact ⟨"www.example.com", by rfl⟩
  obtain ⟨_, spared, _⟩ := cycle_safe ⟨numbered, coherentOn_empty⟩ apart parsed run
  obtain ⟨untouched, _⟩ := spared .v6 (by decide) missed
  have listed : ((dim.run warden.cycle).2.scene.provider.listing (.plain "www.example.com")
      .v4).map Record.address = [.v4 0xCB007107] := by rfl
  have items : ((dim.run warden.cycle).2.scene.provider.itemsOf "list-1").map ListItem.id =
      ["item-2", "item-4"] := by rfl
  exact ⟨by decide, _, _, _, run, seen, listed, untouched, items⟩

end Service

end AddressSync
