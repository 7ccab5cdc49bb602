import AddressSync.Proofs.Reconcile.Forgetting
import AddressSync.Proofs.Reconcile.Restocking

/-! Work that failed, done once more when nothing comes in its way. It ends with what was wanted if
what was cached of the way to its place was right: of the zones that may own the domain, or of the
lists of the account. What was cached of the place itself the failed run forgot, unless it made no
call about that. -/

namespace AddressSync

open Sync Simulation Directory Scene

namespace Reconcile

variable {s s' s'' : Scene} {es : List Moment} {t : Target} {target : ListTarget}
  {sightings : Sightings} {before after : List ListItem}

/-- A run of some work that failed although it was not stopped, and a second one at some later time,
in whose way nothing comes. -/
inductive Retried (work : Sync Report) (s : Scene) (es : List Moment) (s' s'' : Scene) : Prop
  | intro (report report' : Report) (es' : List Moment) (now : Nat)
    (run : Sync.Runs work s es report s') (failed : report.outcome = .failed)
    (ended : report.stopped = false) (later : s'.now ≤ now)
    (again : Sync.Runs work { s' with now } es' report' s'') (smooth : Untroubled es')

/-- Each address that was seen is covered, and by all items of its family. -/
def Sightings.MetBy (sightings : Sightings) (items : List ListItem) : Prop :=
  ∀ family address, sightings.of family = .seen address → address.family = family →
    (∃ item ∈ items, item.block.contains address) ∧
      ∀ item ∈ items, item.block.family = family → item.block.contains address

theorem metBy_of_follows (follows : ∀ family, Follows before family (sightings.of family)
    (after.filter (·.block.family = family))) : sightings.MetBy after := by
  intro family address sighted ofFamily
  have result := follows family
  rw [sighted] at result
  generalize held : after.filter (·.block.family = family) = items at result
  have mem {item : ListItem} : item ∈ items ↔ item ∈ after ∧ item.block.family = family := by
    rw [← held, List.mem_filter, decide_eq_true_iff]
  suffices covers : (∃ item ∈ items, item.block.contains address) ∧
      ∀ item ∈ items, item.block.contains address by
    obtain ⟨⟨item, here, covered⟩, all⟩ := covers
    exact ⟨⟨item, (mem.mp here).1, covered⟩, fun item held same => all item (mem.mpr ⟨held, same⟩)⟩
  cases result with
  | covered _ _ some =>
    obtain ⟨item, held, covers⟩ := some
    refine ⟨⟨item, List.mem_filter.mpr ⟨held, covers⟩, covers⟩, fun item mem => ?_⟩
    exact (List.mem_filter.mp mem).2
  | added _ item _ _ _ block =>
    have covers : item.block.contains address := by
      rw [block]
      exact address.listedBlock_contains
    exact ⟨⟨item, List.mem_singleton_self item, covers⟩, List.forall_mem_singleton.mpr covers⟩
  | unusable _ other => exact absurd ofFamily other

theorem Retried.published (retried : Retried (publish t.domain t.family t.address t.attributes) s es
      s' s'') (numbered : s.provider.Numbered) (ofFamily : t.address.family = t.family)
    (owned : s.provider.ownerOf t.domain = .ok t.zone) (zones : s.ZonesTrue t.domain)
    (said : (∃ m ∈ es, m.isAboutRecords) ∨ s.RecordsTrue t.key) :
    ∃ r, s''.provider.listing t.domain t.family = [r] ∧ r.address = t.address := by
  obtain ⟨report, report', es', now, run, failed, ended, later, again, smooth⟩ := retried
  obtain ⟨zones, forgotten⟩ := ensures_publish_forgets zones ofFamily owned _ _ _ run
  have records : s'.RecordsTrue t.key := by
    rcases forgotten failed ended with unread | untouched
    · exact unread.recordsTrue
    · rcases said with ⟨m, mem, about⟩ | said
      · exact absurd about (untouched.unasked m mem)
      · exact said.frame untouched.later untouched.provider untouched.records
  have only := onlyCalls_publish t.domain t.family t.address t.attributes
  have numbered : s'.provider.Numbered := by
    refine (only.ensures (fun p c publishes numbered => ?_) numbered _ _ _ run).1.last
    refine numbered.perform ?_
    cases c with
    | createItems | replaceItems => cases publishes
    | _ => trivial
  have owned' : s'.provider.ownerOf t.domain = .ok t.zone := (Sync.Runs.ownerOf run _).trans owned
  have reached := ensures_publish_reached (s := { s' with now }) (zones.frame later rfl ⟨rfl, rfl⟩)
    (records.frame later rfl rfl) ofFamily owned' _ _ _ again smooth
  obtain ⟨_, _, r, held, here⟩ := reached.converged ofFamily numbered.records_distinct smooth
  have owned'' : s''.provider.ownerOf t.domain = .ok t.zone :=
    (Sync.Runs.ownerOf again _).trans owned'
  refine ⟨r, ?_, here⟩
  rw [Provider.listing_of_owner t.family owned'']
  exact held

theorem Retried.populated (retried : Retried (populate target sightings) s es s' s'')
    (numbered : s.provider.Numbered) (apart : s.provider.ItemsApart)
    (index : s.IndexTrue target.account) (said : (∃ m ∈ es, m.isAboutItems) ∨
      ∀ l, s'.provider.named? target = some l → s.ItemsTrue l.id) :
    s''.provider.HasList target ∧ ∀ family, Follows (s'.provider.contents target) family
      (sightings.of family) ((s''.provider.contents target).filter (·.block.family = family)) := by
  obtain ⟨report, report', es', now, run, failed, ended, later, again, smooth⟩ := retried
  have attempted := ensures_populate_attempted index sightings _ _ _ run
  have index : IndexTrue target.account { s' with now } :=
    (attempted.indexTrue index).frame later rfl rfl
  have items := attempted.itemsTrue failed ended numbered said
  have only := onlyCalls_populate target sightings
  have apart := (only.ensures (fun p c _ apart => apart.perform c) apart _ _ _ run).1.last
  have attempted := ensures_populate_attempted index sightings _ _ _ again
  obtain ⟨l, made, named, unnumbered, after⟩ := attempted.applied apart
    (fun l named => (items l named).frame later rfl rfl) (unhindered_of_populate again smooth)
  refine ⟨⟨l, Provider.names_of_find? named⟩, fun family => ?_⟩
  rw [Provider.contents_of_named? named, after]
  exact follows_applied unnumbered family

/-- A failed run that was not stopped is made up for by the next one in whose way nothing comes. Of
what was cached when the failed run began, that has to be right which leads to the place: about the
zones that may own the domain, or the lists of the account. What is cached of the place itself only
has to be right if the failed run made no call about that. -/
theorem retried_converges (numbered : s.provider.Numbered) :
    (∀ domain family address attributes zone, Retried (publish domain family address attributes) s es
      s' s'' → address.family = family → s.provider.ownerOf domain = .ok zone → s.ZonesTrue domain →
        (∃ m ∈ es, m.isAboutRecords) ∨ s.RecordsTrue ⟨zone, domain, family⟩ →
          ∃ r, s''.provider.listing domain family = [r] ∧ r.address = address) ∧
    (∀ target sightings, Retried (populate target sightings) s es s' s'' → s.provider.ItemsApart →
      s.IndexTrue target.account → ((∃ m ∈ es, m.isAboutItems) ∨
        ∀ l, s'.provider.named? target = some l → s.ItemsTrue l.id) →
          s''.provider.HasList target ∧ sightings.MetBy (s''.provider.contents target) ∧
            ∀ family, Follows (s'.provider.contents target) family (sightings.of family)
              ((s''.provider.contents target).filter (·.block.family = family))) := by
  constructor
  · intro domain family address attributes zone retried ofFamily owned zones said
    let t : Target := ⟨zone, domain, family, address, attributes⟩
    exact Retried.published (t := t) retried numbered ofFamily owned zones said
  · intro target sightings retried apart index said
    obtain ⟨has, follows⟩ := retried.populated numbered apart index said
    exact ⟨has, metBy_of_follows follows, follows⟩

theorem retried_of_world {Q : Call → Prop} {work : Sync Report} {w : World}
    (only : OnlyAsks (Calls Q) work) (calm : w.Calm) (failed : (w.run work).1.outcome = .failed)
    (ended : (w.run work).1.stopped = false) (spent : (w.run work).2.Spent) :
    Retried work w.scene (w.trace work) (w.run work).2.scene ((w.run work).2.run work).2.scene := by
  have after := (calm.run only).1
  exact .intro _ _ _ _ (World.runs_trace work calm.undisturbed) failed ended (Nat.le_refl _)
    (World.runs_trace work after.undisturbed) ((after.run only).2 spent).2

def zoned : Provider where
  zones := [⟨"z", "example.com", .active⟩]

def housed : Provider :=
  (zoned.perform (.createList "acct" "hosts" "")).2.perform (.createItems "acct" "list-1"
    [(Address.v4 1).listedBlock, (Address.v4 2).listedBlock] "") |>.2

theorem numbered_housed : housed.Numbered ∧ housed.ItemsApart := by
  have numbered : zoned.Numbered := (Provider.sound_of_zones zoned.zones 0).toNumbered
  have apart : zoned.ItemsApart := Provider.itemsApart_empty.of_same (fun _ => rfl) (Nat.le_refl _)
  refine ⟨numbered.createList.perform ?_, (apart.perform _).perform _⟩
  exact ⟨⟨"list-1", "hosts", "", "ip"⟩, by decide, rfl⟩

theorem zonesTrue_of_empty {domain : Domain} (zones : s.caches.zones.entries = [])
    (owners : s.caches.owners.entries = []) : s.ZonesTrue domain := by
  refine ⟨fun e mem => ?_, fun e mem => ?_⟩
  · rw [zones] at mem
    cases mem
  · rw [owners] at mem
    cases mem

def shaken : World where
  provider := housed
  caches := { Caches.empty 60000 with
    records := (Caches.empty 60000).records.set 0 ⟨"z", .plain "www.example.com", .v4⟩
      [⟨"rec-0", .v4 9, {}⟩]
    items := (Caches.empty 60000).items.set 0 "list-1"
      [⟨"item-0", (Address.v4 1).listedBlock⟩, ⟨"item-3", (Address.v4 2).listedBlock⟩] }

def jolted : World where
  provider := shaken.provider
  caches := shaken.caches
  faults := [⟨.deleteItems, none, some 1, .http "timeout", true⟩]

theorem retried_converges_shaken :
    (∃ es s' s'', Retried (publish (.plain "www.example.com") .v4 (.v4 1) {}) shaken.scene es s' s'' ∧
      ∃ r, s''.provider.listing (.plain "www.example.com") .v4 = [r] ∧ r.address = .v4 1) ∧
    ∃ es s' s'', Retried (populate stock glimpse) jolted.scene es s' s'' ∧
      s''.provider.HasList stock ∧ glimpse.MetBy (s''.provider.contents stock) := by
  have calm : shaken.Calm ∧ jolted.Calm := ⟨⟨rfl, rfl, rfl⟩, rfl, rfl, rfl⟩
  obtain ⟨numbered, apart⟩ := numbered_housed
  constructor
  · have retried := retried_of_world (onlyCalls_publish (.plain "www.example.com") .v4 (.v4 1) {})
      calm.1 (by decide) (by decide) (by decide)
    have converges := (retried_converges numbered).1 _ _ _ _ "z" retried rfl (by decide)
    exact ⟨_, _, _, retried, converges (zonesTrue_of_empty rfl rfl) (.inl (by decide))⟩
  · have retried := retried_of_world (onlyCalls_populate stock glimpse) calm.2 (by decide) (by decide)
      (by decide)
    obtain ⟨has, met, _⟩ := (retried_converges numbered).2 _ _ retried apart
      (fun _ _ _ found => nomatch found) (.inl (by decide))
    exact ⟨_, _, _, retried, has, met⟩

def misled : World where
  provider := zoned
  caches := { Caches.empty 60000 with
    owners := (Caches.empty 60000).owners.set 0 (.plain "www.example.com") "old" }
  faults := [⟨.listRecords, none, some 1, .http "timeout", false⟩]

def deluded : World where
  provider := zoned
  caches := { Caches.empty 60000 with
    records := (Caches.empty 60000).records.set 0 ⟨"z", .plain "www.example.com", .v4⟩
      [⟨"rec-0", .v4 1, {}⟩] }
  faults := [⟨.listZones, none, some 1, .http "timeout", false⟩]

def twinned : World where
  provider := { zoned with
    records := [⟨"z", "www.example.com", ⟨"rec", .v4 1, {}⟩⟩, ⟨"z", "www.example.com", ⟨"rec", .v4 2, {}⟩⟩] }
  caches := .empty 60000
  faults := [⟨.listRecords, none, some 1, .http "timeout", false⟩]

def misfiled : World where
  provider := zoned
  caches := { Caches.empty 60000 with
    indexes := (Caches.empty 60000).indexes.set 0 "acct" ⟨[⟨"list-0", "hosts", "", "ip"⟩]⟩ }
  faults := [⟨.listItems, none, some 1, .http "timeout", false⟩]

def miscounted : World where
  provider := (zoned.perform (.createList "acct" "hosts" "")).2
  caches := { Caches.empty 60000 with
    items := (Caches.empty 60000).items.set 0 "list-1" [⟨"item-0", (Address.v4 2).listedBlock⟩] }
  faults := [⟨.listLists, none, some 1, .http "timeout", false⟩]

/-- What a failed run did not forget can keep the next one from its end: a zone, although a call about
records failed; records, if no call was about them; a list, although a call about items failed; and
items, if no call was about them. So can two records of one identifier. -/
theorem retried_astray :
    (∃ es s' s'', Retried (publish (.plain "www.example.com") .v4 (.v4 1) {}) misled.scene es s' s'' ∧
      misled.provider.Numbered ∧ misled.provider.ownerOf (.plain "www.example.com") = .ok "z" ∧
        (∃ m ∈ es, m.isAboutRecords) ∧ s''.provider.listing (.plain "www.example.com") .v4 = []) ∧
    (∃ es s' s'', Retried (publish (.plain "www.example.com") .v4 (.v4 1) {}) deluded.scene es s' s'' ∧
      deluded.provider.Numbered ∧ deluded.provider.ownerOf (.plain "www.example.com") = .ok "z" ∧
        deluded.scene.ZonesTrue (.plain "www.example.com") ∧
          s''.provider.listing (.plain "www.example.com") .v4 = []) ∧
    (∃ es s' s'', Retried (publish (.plain "www.example.com") .v4 (.v4 1) {}) twinned.scene es s' s'' ∧
      twinned.provider.ownerOf (.plain "www.example.com") = .ok "z" ∧
        twinned.scene.ZonesTrue (.plain "www.example.com") ∧ (∃ m ∈ es, m.isAboutRecords) ∧
          (s''.provider.listing (.plain "www.example.com") .v4).length = 2) ∧
    (∃ es s' s'', Retried (populate stock glimpse) misfiled.scene es s' s'' ∧
      misfiled.provider.Numbered ∧ misfiled.provider.ItemsApart ∧ (∃ m ∈ es, m.isAboutItems) ∧
        ¬ glimpse.MetBy (s''.provider.contents stock)) ∧
    ∃ es s' s'', Retried (populate stock glimpse) miscounted.scene es s' s'' ∧
      miscounted.provider.Numbered ∧ miscounted.provider.ItemsApart ∧
        miscounted.scene.IndexTrue "acct" ∧ ¬ glimpse.MetBy (s''.provider.contents stock) := by
  have numbered : zoned.Numbered := (Provider.sound_of_zones zoned.zones 0).toNumbered
  have apart : zoned.ItemsApart := Provider.itemsApart_empty.of_same (fun _ => rfl) (Nat.le_refl _)
  have publishes {w : World} := retried_of_world (w := w)
    (onlyCalls_publish (.plain "www.example.com") .v4 (.v4 1) {})
  have populates {w : World} := retried_of_world (w := w) (onlyCalls_populate stock glimpse)
  have unmet {p : Provider} (empty : p.contents stock = []) : ¬ glimpse.MetBy (p.contents stock) := by
    intro met
    rw [empty] at met
    obtain ⟨item, mem, _⟩ := (met .v4 (.v4 2) rfl rfl).1
    cases mem
  refine ⟨?_, ?_, ?_, ?_, ?_⟩
  · refine ⟨_, _, _, publishes ⟨rfl, rfl, rfl⟩ (by decide) (by decide) (by decide), numbered, ?_⟩
    exact ⟨by decide, by decide, by decide⟩
  · refine ⟨_, _, _, publishes ⟨rfl, rfl, rfl⟩ (by decide) (by decide) (by decide), numbered, ?_⟩
    exact ⟨by decide, zonesTrue_of_empty rfl rfl, by decide⟩
  · refine ⟨_, _, _, publishes ⟨rfl, rfl, rfl⟩ (by decide) (by decide) (by decide), ?_⟩
    exact ⟨by decide, zonesTrue_of_empty rfl rfl, by decide, by decide⟩
  · refine ⟨_, _, _, populates ⟨rfl, rfl, rfl⟩ (by decide) (by decide) (by decide), numbered, apart, ?_⟩
    exact ⟨by decide, unmet (by decide)⟩
  · refine ⟨_, _, _, populates ⟨rfl, rfl, rfl⟩ (by decide) (by decide) (by decide),
      numbered.createList, apart.perform _, ?_⟩
    exact ⟨(fun _ _ _ found => nomatch found), unmet (by decide)⟩

end Reconcile

end AddressSync
