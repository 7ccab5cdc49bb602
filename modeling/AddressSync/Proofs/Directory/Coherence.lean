import AddressSync.Directory.Lists
import AddressSync.Directory.Records
import AddressSync.Proofs.Cache.Holds
import AddressSync.Proofs.Directory.Effects
import AddressSync.Proofs.Provider.Owner

/-! Caches that say what the provider would say. Each read of the directory keeps them so, and gives
what the provider holds, unless it fails. -/

namespace AddressSync

open Sync Simulation Directory

namespace Scene

structure ZonesCoherent (s : Scene) : Prop where
  zones : s.caches.zones.Holds s.now fun name zones =>
    (s.provider.perform (.listZones name)).1 = .ok zones
  owners : s.caches.owners.Holds s.now fun domain zone => s.provider.ownerOf domain = .ok zone

/-- Each live entry is what the provider would answer now. Cached records are moreover those of
places with the property `K`. -/
structure CoherentOn (K : RecordsKey → Prop) (s : Scene) : Prop extends ZonesCoherent s where
  records : s.caches.records.Holds s.now fun key records =>
    K key ∧ (s.provider.perform (.listRecords key.zone key.domain key.family)).1 = .ok records
  indexes : s.caches.indexes.Holds s.now fun account index =>
    (s.provider.perform (.listLists account)).1.map ListIndex.ofLists = .ok index
  items : s.caches.items.Holds s.now fun id items =>
    ∀ account, (s.provider.perform (.listItems account id)).1 = .ok items

def Coherent (s : Scene) : Prop := s.CoherentOn fun _ => True

structure ZonesTrue (domain : Domain) (s : Scene) : Prop where
  zones : s.caches.zones.Holds s.now fun name zones =>
    name ∈ domain.zoneNames → (s.provider.perform (.listZones name)).1 = .ok zones
  owners : s.caches.owners.Holds s.now fun domain' zone =>
    domain' = domain → s.provider.ownerOf domain = .ok zone

structure KeepsZones (s s' : Scene) : Prop where
  zones : ∀ P : String → List Zone → Prop, s.caches.zones.Holds s.now P →
    (∀ name zones, (s.provider.perform (.listZones name)).1 = .ok zones → P name zones) →
      s'.caches.zones.Holds s'.now P
  owners : ∀ P : Domain → String → Prop, s.caches.owners.Holds s.now P →
    (∀ domain zone, s.provider.ownerOf domain = .ok zone → P domain zone) →
      s'.caches.owners.Holds s'.now P

def RecordsTrue (key : RecordsKey) (s : Scene) : Prop :=
  ∀ t records, s.now ≤ t → s.caches.records.get? t key = some records →
    records = s.provider.recordsOf key.zone key.domain.print key.family

def IndexTrue (account : String) (s : Scene) : Prop :=
  ∀ t index, s.now ≤ t → s.caches.indexes.get? t account = some index →
    index = ListIndex.ofLists (s.provider.listsOf account)

def ItemsTrue (id : String) (s : Scene) : Prop :=
  ∀ t items, s.now ≤ t → s.caches.items.get? t id = some items → items = s.provider.itemsOf id

variable {K : RecordsKey → Prop} {s s' s'' : Scene} {es : List Moment} {domain : Domain}
  {account id : String}

theorem coherentOn_flush {now : Nat} {p : Provider} {c : Caches} :
    CoherentOn K ⟨now, p, c.flush⟩ where
  zones := Cache.holds_clear
  owners := Cache.holds_clear
  records := Cache.holds_clear
  indexes := Cache.holds_clear
  items := Cache.holds_clear

theorem coherentOn_empty {now : Nat} {p : Provider} {lifetime : Nat} :
    CoherentOn K ⟨now, p, .empty lifetime⟩ :=
  coherentOn_flush (c := .empty lifetime)

theorem CoherentOn.coherent (h : s.CoherentOn K) : s.Coherent :=
  { h with records := h.records.mono fun _ _ said => ⟨trivial, said.2⟩ }

theorem CoherentOn.records_get? (h : s.CoherentOn K) {key : RecordsKey} {t : Nat}
    {records : List Record} (later : s.now ≤ t) (found : s.caches.records.get? t key = some records) :
    records = s.provider.recordsOf key.zone key.domain.print key.family :=
  (Except.ok.inj ((h.records.later later).get? found).2).symm

theorem CoherentOn.recordsTrue (h : s.CoherentOn K) (key : RecordsKey) : s.RecordsTrue key :=
  fun _ _ later found => h.records_get? later found

theorem ZonesCoherent.frame (h : s.ZonesCoherent) (later : s.now ≤ s'.now)
    (zones : s'.provider.zones = s.provider.zones)
    (caches : s'.caches.zones = s.caches.zones ∧ s'.caches.owners = s.caches.owners) :
    s'.ZonesCoherent where
  zones := by
    rw [caches.1]
    refine (h.zones.later later).mono fun e mem said => ?_
    rwa [Provider.perform, zones]
  owners := by
    rw [caches.2]
    refine (h.owners.later later).mono fun e mem said => ?_
    exact (Provider.ownerAmong_congr zones e.key e.key.zoneNames).trans said

theorem ZonesCoherent.zonesTrue (h : s.ZonesCoherent) (domain : Domain) : s.ZonesTrue domain where
  zones := h.zones.mono fun _ _ said _ => said
  owners := h.owners.mono fun _ _ said here => here ▸ said

theorem ZonesTrue.frame (h : s.ZonesTrue domain) (later : s.now ≤ s'.now)
    (zones : s'.provider.zones = s.provider.zones)
    (caches : s'.caches.zones = s.caches.zones ∧ s'.caches.owners = s.caches.owners) :
    s'.ZonesTrue domain where
  zones := by
    rw [caches.1]
    refine (h.zones.later later).mono fun e mem said => ?_
    rwa [Provider.perform, zones]
  owners := by
    rw [caches.2]
    refine (h.owners.later later).mono fun e mem said here => ?_
    exact (Provider.ownerAmong_congr zones domain domain.zoneNames).trans (said here)

theorem RecordsTrue.frame {key : RecordsKey} (h : s.RecordsTrue key) (later : s.now ≤ s'.now)
    (provider : s'.provider = s.provider) (cached : s'.caches.records = s.caches.records) :
    s'.RecordsTrue key := by
  intro t records later' found
  rw [cached] at found
  rw [h t records (Nat.le_trans later later') found, provider]

theorem IndexTrue.frame (h : s.IndexTrue account) (later : s.now ≤ s'.now)
    (lists : s'.provider.lists = s.provider.lists) (cached : s'.caches.indexes = s.caches.indexes) :
    s'.IndexTrue account := by
  intro t index later' found
  rw [cached] at found
  rw [h t index (Nat.le_trans later later') found, Provider.listsOf, Provider.listsOf, lists]

theorem ItemsTrue.frame (h : s.ItemsTrue id) (later : s.now ≤ s'.now)
    (items : s'.provider.itemsOf id = s.provider.itemsOf id)
    (cached : s'.caches.items = s.caches.items) : s'.ItemsTrue id := by
  intro t items' later' found
  rw [cached] at found
  rw [h t items' (Nat.le_trans later later') found, items]

theorem keepsZones_of_same (later : s.now ≤ s'.now)
    (caches : s'.caches.zones = s.caches.zones ∧ s'.caches.owners = s.caches.owners) :
    s.KeepsZones s' where
  zones P holds _ := by
    rw [caches.1]
    exact holds.later later
  owners P holds _ := by
    rw [caches.2]
    exact holds.later later

theorem KeepsZones.trans (first : s.KeepsZones s') (same : s'.provider = s.provider)
    (rest : s'.KeepsZones s'') : s.KeepsZones s'' where
  zones P holds fresh := rest.zones P (first.zones P holds fresh) (by rwa [same])
  owners P holds fresh := rest.owners P (first.owners P holds fresh) (by rwa [same])

theorem KeepsZones.coherent (kept : s.KeepsZones s') (same : s'.provider = s.provider)
    (h : s.ZonesCoherent) : s'.ZonesCoherent where
  zones := by
    rw [same]
    exact kept.zones _ h.zones fun _ _ live => live
  owners := by
    rw [same]
    exact kept.owners _ h.owners fun _ _ live => live

theorem KeepsZones.zonesTrue (kept : s.KeepsZones s') (same : s'.provider = s.provider)
    (h : s.ZonesTrue domain) : s'.ZonesTrue domain where
  zones := by
    rw [same]
    exact kept.zones _ h.zones fun _ _ live _ => live
  owners := by
    rw [same]
    exact kept.owners _ h.owners fun _ _ live here => here ▸ live

theorem CoherentOn.move (h : s.CoherentOn K) (later : s.now ≤ s'.now)
    (zones : s'.provider.zones = s.provider.zones)
    (caches : s'.caches.zones = s.caches.zones ∧ s'.caches.owners = s.caches.owners)
    (records : s'.caches.records.Holds s'.now fun key records =>
      K key ∧ (s'.provider.perform (.listRecords key.zone key.domain key.family)).1 = .ok records)
    (indexes : s'.caches.indexes.Holds s'.now fun account index =>
      (s'.provider.perform (.listLists account)).1.map ListIndex.ofLists = .ok index)
    (items : s'.caches.items.Holds s'.now fun id items =>
      ∀ account, (s'.provider.perform (.listItems account id)).1 = .ok items) :
    s'.CoherentOn K :=
  ⟨h.toZonesCoherent.frame later zones caches, records, indexes, items⟩

theorem CoherentOn.pass (h : s.CoherentOn K) {t : Nat} (later : s.now ≤ t) :
    CoherentOn K { s with now := t } where
  toZonesCoherent := h.toZonesCoherent.frame later rfl ⟨rfl, rfl⟩
  records := h.records.later later
  indexes := h.indexes.later later
  items := h.items.later later

/-- What a read ensures: it changes nothing, and what it gives is true of the provider. -/
structure Reads (K : RecordsKey → Prop) (s : Scene) {ν : Type} (live : ν → Prop) (es : List Moment)
    (reply : Except Failure ν) (s' : Scene) : Prop where
  quiet : s.Quiet es s'
  coherent : s'.CoherentOn K
  true_of_ok : ∀ value, reply = .ok value → live value
  failed : ∀ e, reply = .error e → ∃ m ∈ es, m.Fails

structure ReadsZones (s : Scene) {ν : Type} (live : Except Failure ν → Prop) (es : List Moment)
    (reply : Except Failure ν) (s' : Scene) : Prop where
  quiet : s.Quiet es s'
  kept : s.KeepsZones s'
  answered : live reply ∨ reply.isOk = false ∧ ∃ m ∈ es, m.Fails
  records : s'.caches.records = s.caches.records
  indexes : s'.caches.indexes = s.caches.indexes
  items : s'.caches.items = s.caches.items

variable {ν : Type} {live : ν → Prop} {reply : Except Failure ν}

theorem ReadsZones.true_of_ok {live : Except Failure ν → Prop}
    (result : s.ReadsZones live es reply s') : ∀ value, reply = .ok value → live (.ok value) := by
  rintro value rfl
  rcases result.answered with live | ⟨failed, _⟩
  · exact live
  · cases failed

theorem ReadsZones.coherentOn {live : Except Failure ν → Prop}
    (result : s.ReadsZones live es reply s') (h : s.CoherentOn K) :
    s'.CoherentOn K := by
  refine ⟨result.kept.coherent result.quiet.provider h.toZonesCoherent, ?_, ?_, ?_⟩
  · rw [result.records, result.quiet.provider]
    exact h.records.later result.quiet.later
  · rw [result.indexes, result.quiet.provider]
    exact h.indexes.later result.quiet.later
  · rw [result.items, result.quiet.provider]
    exact h.items.later result.quiet.later

theorem Fetches.reads {store : ν → Nat → Caches → Caches}
    (result : s.Fetches live store es reply s') (h : s.CoherentOn K)
    (stored : ∀ t value, CoherentOn K { s with now := t } → live value →
      CoherentOn K { s with now := t, caches := store value t s.caches }) :
    s.Reads K live es reply s' := by
  obtain ⟨quiet, true_of_ok, failed, caches⟩ := result
  obtain ⟨t, p, c⟩ := s'
  obtain rfl : p = s.provider := quiet.provider
  have passed := h.pass quiet.later
  refine ⟨quiet, ?_, true_of_ok, failed⟩
  rcases caches with same | ⟨value, true, same⟩
  · obtain rfl : c = s.caches := same
    exact passed
  · obtain rfl : c = store value t s.caches := same
    exact stored t value passed true

theorem Fetches.keepsZones {store : ν → Nat → Caches → Caches}
    (result : s.Fetches live store es reply s')
    (kept : ∀ value t c, (store value t c).zones = c.zones ∧ (store value t c).owners = c.owners) :
    s.KeepsZones s' := by
  refine keepsZones_of_same result.quiet.later ?_
  rcases result.caches with same | ⟨value, _, same⟩
  · rw [same]
    exact ⟨rfl, rfl⟩
  · rw [same]
    exact kept value _ _

end Scene

namespace Directory

open Scene

variable {K : RecordsKey → Prop} {s : Scene} {domain : Domain}

theorem ensures_zones (name : String) (said : ∀ t zones, s.now ≤ t →
      s.caches.zones.get? t name = some zones → (s.provider.perform (.listZones name)).1 = .ok zones) :
    Sync.Ensures (zones name) s
      (s.ReadsZones ((s.provider.perform (.listZones name)).1 = ·)) := by
  have fetches : Sync.Ensures (zones name) s (s.Fetches
      (fun zones => (s.provider.perform (.listZones name)).1 = .ok zones)
      fun zones now c => { c with zones := c.zones.set now name zones }) :=
    ensures_fetch rfl (silent_log _ _ _) said fun reply live => live
  refine fetches.mono fun es reply s' ⟨quiet, true_of_ok, failed, caches⟩ => ?_
  have answered : (s.provider.perform (.listZones name)).1 = reply ∨
      reply.isOk = false ∧ ∃ m ∈ es, m.Fails := by
    cases reply with
    | ok value => exact .inl (true_of_ok value rfl)
    | error e => exact .inr ⟨rfl, failed e rfl⟩
  rcases caches with kept | ⟨value, live, stored⟩
  · refine ⟨quiet, keepsZones_of_same quiet.later ?_, answered, ?_, ?_, ?_⟩ <;> rw [kept]
    exact ⟨rfl, rfl⟩
  · refine ⟨quiet, ⟨fun P holds fresh => ?_, fun P holds _ => ?_⟩, answered, ?_, ?_, ?_⟩ <;>
      rw [stored]
    · exact (holds.later quiet.later).set (fresh name value live)
    · exact holds.later quiet.later

theorem ensures_records (h : s.CoherentOn K) {zone : String} {family : Family}
    (key : K ⟨zone, domain, family⟩) :
    Sync.Ensures (records zone domain family) s
      (s.Reads K fun found => found = s.provider.recordsOf zone domain.print family) := by
  refine (ensures_fetch rfl (silent_log _ _ _) ?said ?fresh).mono fun es reply s' result =>
    result.reads h ?stored
  case said => exact fun t value later found => h.records_get? later found
  case fresh => exact fun reply live => (Except.ok.inj live).symm
  case stored =>
    exact fun t value passed live =>
      { passed with records := passed.records.set ⟨key, congrArg Except.ok live.symm⟩ }

theorem ensures_index (h : s.CoherentOn K) (account : String) :
    Sync.Ensures (index account) s
      (s.Reads K fun found => found = ListIndex.ofLists (s.provider.listsOf account)) := by
  refine (ensures_fetch rfl (silent_log _ _ _) ?said ?fresh).mono fun es reply s' result =>
    result.reads h ?stored
  case said =>
    exact fun t value later found => (Except.ok.inj ((h.indexes.later later).get? found)).symm
  case fresh => exact fun reply live => congrArg ListIndex.ofLists (Except.ok.inj live).symm
  case stored =>
    exact fun t value passed live =>
      { passed with indexes := passed.indexes.set (congrArg Except.ok live.symm) }

theorem ensures_items (h : s.CoherentOn K) (target : ListTarget) (id : String) :
    Sync.Ensures (items target id) s (s.Reads K fun found => found = s.provider.itemsOf id) := by
  refine (ensures_fetch rfl (silent_log _ _ _) ?said ?fresh).mono fun es reply s' result =>
    result.reads h ?stored
  case said =>
    exact fun t value later found =>
      (Except.ok.inj ((h.items.later later).get? found target.account)).symm
  case fresh => exact fun reply live => (Except.ok.inj live).symm
  case stored =>
    exact fun t value passed live =>
      { passed with items := passed.items.set fun _ => congrArg Except.ok live.symm }

theorem ensures_findList (h : s.CoherentOn K) (target : ListTarget) :
    Sync.Ensures (findList target) s (s.Reads K fun found =>
      found = (ListIndex.ofLists (s.provider.listsOf target.account)).find? target.name) := by
  refine (ensures_index h target.account).bind fun es reply s' ⟨quiet, coherent, live, failed⟩ => ?_
  cases reply with
  | error e =>
    refine Program.ensures_pure_iff.mpr ?_
    rw [List.append_nil]
    exact ⟨quiet, coherent, (fun value said => nomatch said), fun _ _ => failed e rfl⟩
  | ok found =>
    refine Program.ensures_pure_iff.mpr ?_
    rw [List.append_nil]
    refine ⟨quiet, coherent, fun value said => ?_, fun e said => nomatch said⟩
    rw [← Except.ok.inj said, live found rfl]

structure FindsList (target : ListTarget) (s : Scene) (es : List Moment)
    (reply : Except Failure (Option NamedList)) (s' : Scene) : Prop where
  quiet : s.Quiet es s'
  index : s'.IndexTrue target.account
  true_of_ok : ∀ found, reply = .ok found → found = s.provider.named? target
  failed : ∀ e, reply = .error e → ∃ m ∈ es, m.Fails
  zones : s.KeepsZones s'
  items : s'.caches.items = s.caches.items

theorem ensures_findsList {target : ListTarget} (h : s.IndexTrue target.account) :
    Sync.Ensures (findList target) s (FindsList target s) := by
  have indexes : Sync.Ensures (index target.account) s fun es reply s' =>
      FindsList target s es (reply.map (·.find? target.name)) s' := by
    have fetches : Sync.Ensures (index target.account) s (s.Fetches
        (· = ListIndex.ofLists (s.provider.listsOf target.account))
        fun index now c => { c with indexes := c.indexes.set now target.account index }) :=
      ensures_fetch rfl (silent_log _ _ _) h
        fun reply live => congrArg ListIndex.ofLists (Except.ok.inj live).symm
    refine fetches.mono fun es reply s' fetches => ?_
    have provider := fetches.quiet.provider
    have kept := fetches.keepsZones fun _ _ _ => ⟨rfl, rfl⟩
    refine ⟨fetches.quiet, ?_, fun found same => ?_, fun e same => ?_, kept, ?_⟩
    · rcases fetches.caches with kept | ⟨value, live, stored⟩
      · exact h.frame fetches.quiet.later (congrArg Provider.lists provider)
          (congrArg Caches.indexes kept)
      · intro t index later found
        rw [stored, Cache.get?_set] at found
        split at found
        · cases found
          rw [live, provider]
        · cases found
    · cases reply with
      | error e => cases same
      | ok index =>
        rw [← Except.ok.inj same, fetches.true_of_ok index rfl]
        rfl
    · cases reply with
      | error e => exact fetches.failed e rfl
      | ok index => cases same
    · rcases fetches.caches with kept | ⟨_, _, stored⟩
      · rw [kept]
      · rw [stored]
  refine indexes.bind fun es reply s' finds => ?_
  cases reply with
  | error e | ok index =>
    refine Program.ensures_pure_iff.mpr ?_
    rw [List.append_nil]
    exact finds

theorem silent_remark (name : String) (zone : Zone) : Silent (remark name zone) := by
  unfold remark
  dsimp only
  split
  · exact silent_pure
  all_goals exact silent_log _ _ _

theorem ensures_ownerAmong (h : s.ZonesTrue domain) (names : List String)
    (within : ∀ name ∈ names, name ∈ domain.zoneNames)
    (all : s.provider.ownerAmong domain names = s.provider.ownerOf domain) :
    Sync.Ensures (ownerAmong domain names) s (s.ReadsZones (s.provider.ownerOf domain = ·)) := by
  induction names generalizing s with
  | nil =>
    have later := Nat.le_refl s.now
    exact Program.ensures_pure_iff.mpr
      ⟨quiet_pass later, keepsZones_of_same later ⟨rfl, rfl⟩, .inl all.symm, rfl, rfl, rfl⟩
  | cons name rest ih =>
    obtain ⟨here, within⟩ := List.forall_mem_cons.mp within
    have zones := ensures_zones name
      fun t zones later found => (h.zones.later later).get? found here
    refine zones.bind fun es reply s' found => ?_
    obtain ⟨quiet, kept, answered, records, indexes, items⟩ := found
    cases reply with
    | error e =>
      refine Program.ensures_pure_iff.mpr ⟨?_, kept, .inr ⟨rfl, ?_⟩, records, indexes, items⟩
      · rwa [List.append_nil]
      · rw [List.append_nil]
        rcases answered with live | ⟨_, failed⟩
        · cases live
        · exact failed
    | ok found =>
      obtain rfl : s.provider.zones.filter (·.name = name) = found := by
        rcases answered with live | ⟨failed, _⟩
        · exact Except.ok.inj live
        · cases failed
      refine (silent_forM (silent_remark name) _).ensures_bind ?_
      rw [Provider.ownerAmong] at all
      generalize (s.provider.zones.filter (·.name = name)).filter isUsable = usable at all ⊢
      rcases usable with _ | ⟨zone, _ | ⟨other, more⟩⟩
      · have h := kept.zonesTrue quiet.provider h
        rw [← quiet.provider] at all ⊢
        refine (ih h within all).mono fun es' reply s'' later => ?_
        refine ⟨quiet.trans later.quiet, kept.trans quiet.provider later.kept, ?_,
          later.records.trans records, later.indexes.trans indexes, later.items.trans items⟩
        rcases later.answered with live | ⟨refused, m, mem, fails⟩
        · exact .inl live
        · exact .inr ⟨refused, m, List.mem_append_right es mem, fails⟩
      · refine ensures_log_iff.mpr (ensures_revise_iff.mpr fun t later => ?_)
        refine Program.ensures_pure_iff.mpr
          ⟨quiet.trans (quiet_pass later), ⟨fun P holds fresh => ?_, fun P holds fresh => ?_⟩,
            .inl all.symm, records, indexes, items⟩
        · exact (kept.zones P holds fresh).later later
        · exact ((kept.owners P holds fresh).later later).set (fresh domain zone.id all.symm)
      · refine Program.ensures_pure_iff.mpr ⟨?_, kept, .inl all.symm, records, indexes, items⟩
        rwa [List.append_nil]

theorem ensures_owner (h : s.ZonesTrue domain) :
    Sync.Ensures (owner domain) s (s.ReadsZones (s.provider.ownerOf domain = ·)) := by
  refine ensures_look_iff.mpr fun t later => ?_
  have passed : ZonesTrue domain { s with now := t } := h.frame later rfl ⟨rfl, rfl⟩
  have kept : s.KeepsZones { s with now := t } := keepsZones_of_same later ⟨rfl, rfl⟩
  dsimp only
  cases found : s.caches.owners.get? t domain with
  | some zone =>
    exact ensures_log_iff.mpr (Program.ensures_pure_iff.mpr
      ⟨quiet_pass later, kept, .inl (passed.owners.get? found rfl), rfl, rfl, rfl⟩)
  | none =>
    refine (ensures_ownerAmong passed domain.zoneNames (fun _ => id) rfl).mono ?_
    intro es reply s' ⟨quiet, kept', answered, records, indexes, items⟩
    exact ⟨(quiet_pass later).trans quiet, kept.trans rfl kept', answered, records, indexes, items⟩

end Directory

end AddressSync
