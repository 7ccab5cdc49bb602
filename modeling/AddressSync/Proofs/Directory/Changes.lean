import AddressSync.Proofs.Directory.Coherence
import AddressSync.Proofs.Domain.Printed
import AddressSync.Proofs.Provider.Sound

/-! Changes keep the caches coherent. One that succeeded is patched in under its key, where it makes
of what was cached what the provider now holds; after one that failed its key is forgotten. Either
way the entries of all other keys stay true, as the change did not touch their places. -/

namespace AddressSync

open Sync Simulation Directory

namespace Scene

/-- A provider whose numbers to come are unused, and caches that are coherent with it and hold
records of domains that were read from a text. -/
structure Orderly (s : Scene) : Prop where
  numbered : s.provider.Numbered
  coherent : s.CoherentOn fun key => key.domain.IsParsed

/-- A sound provider, and caches that are coherent with it and hold records of domains that were
read from a text. -/
structure Faithful (s : Scene) : Prop where
  sound : s.provider.Sound
  coherent : s.CoherentOn fun key => key.domain.IsParsed

theorem Faithful.orderly {s : Scene} (h : s.Faithful) : s.Orderly := ⟨h.sound.toNumbered, h.coherent⟩

variable {K : RecordsKey → Prop} {s s' : Scene}

theorem CoherentOn.records_of_same (h : s.CoherentOn K) (later : s.now ≤ s'.now)
    (same : s'.provider.records = s.provider.records)
    (cached : s'.caches.records = s.caches.records) :
    s'.caches.records.Holds s'.now fun key records => K key ∧
      (s'.provider.perform (.listRecords key.zone key.domain key.family)).1 = .ok records := by
  rw [cached]
  refine (h.records.later later).mono fun e mem said => ⟨said.1, ?_⟩
  rw [← said.2, Provider.perform, Provider.perform, Provider.recordsOf, same]
  rfl

theorem CoherentOn.indexes_of_same (h : s.CoherentOn K) (later : s.now ≤ s'.now)
    (same : s'.provider.lists = s.provider.lists)
    (cached : s'.caches.indexes = s.caches.indexes) :
    s'.caches.indexes.Holds s'.now fun account index =>
      (s'.provider.perform (.listLists account)).1.map ListIndex.ofLists = .ok index := by
  rw [cached]
  refine (h.indexes.later later).mono fun e mem said => ?_
  rwa [Provider.perform, same]

theorem CoherentOn.items_of_same (h : s.CoherentOn K) (later : s.now ≤ s'.now)
    (same : s'.provider.items = s.provider.items) (cached : s'.caches.items = s.caches.items) :
    s'.caches.items.Holds s'.now fun id items =>
      ∀ account, (s'.provider.perform (.listItems account id)).1 = .ok items := by
  rw [cached]
  refine (h.items.later later).mono fun e mem said account => ?_
  rw [← said account, Provider.perform, Provider.perform, Provider.itemsOf, same]
  rfl

end Scene

namespace Simulation.Provider

/-- The call is about the records of one place, of which it makes what `change` says. -/
structure ChangesRecords (p : Provider) (c : Call) (key : RecordsKey)
    (change : c.Reply → List Record → List Record) : Prop where
  lists : (p.perform c).2.lists = p.lists
  items : (p.perform c).2.items = p.items
  elsewhere : ∀ zone name family, ¬ (zone = key.zone ∧ name = key.domain.print ∧
    family = key.family) → (p.perform c).2.recordsOf zone name family = p.recordsOf zone name family
  here : ∀ x, (p.perform c).1 = .ok x →
    (p.perform c).2.recordsOf key.zone key.domain.print key.family =
      change x (p.recordsOf key.zone key.domain.print key.family)

structure ChangesItems (p : Provider) (c : Call) (id : String)
    (change : c.Reply → List ListItem → List ListItem) : Prop where
  lists : (p.perform c).2.lists = p.lists
  records : (p.perform c).2.records = p.records
  elsewhere : ∀ other, other ≠ id → (p.perform c).2.itemsOf other = p.itemsOf other
  here : ∀ x, (p.perform c).1 = .ok x → (p.perform c).2.itemsOf id = change x (p.itemsOf id)

variable {p : Provider} {zone id account comment : String} {domain : Domain} {family : Family}
  {address : Address} {attributes : Attributes} {ids : List String} {blocks : List Block}

theorem changesRecords_create (ofFamily : address.family = family) :
    p.ChangesRecords (.createRecord zone domain family address attributes) ⟨zone, domain, family⟩
      fun record => (· ++ [record]) where
  lists := rfl
  items := rfl
  elsewhere zone' name family' other := by
    rw [recordsOf_createRecord, if_neg, List.append_nil]
    rintro ⟨rfl, rfl, rfl⟩
    exact other ⟨rfl, rfl, ofFamily⟩
  here record made := by
    cases made
    rw [recordsOf_createRecord, if_pos ⟨rfl, rfl, ofFamily⟩]

theorem changesRecords_update_within (ofFamily : address.family = family)
    (within : p.RecordWithin id zone domain.print family)
    (distinct : ((p.recordsOf zone domain.print family).map Record.id).Nodup) :
    p.ChangesRecords (.updateRecord zone domain family id address) ⟨zone, domain, family⟩
      fun _ => (·.map (readdress id address)) where
  lists := by
    rw [perform]
    split <;> rfl
  items := by
    rw [perform]
    split <;> rfl
  elsewhere zone' name family' other := by
    subst ofFamily
    rw [recordsOf_updateRecord_within within distinct]
    exact map_readdress_of_absent (within.not_mem_elsewhere other)
  here x _ := by
    subst ofFamily
    exact recordsOf_updateRecord_within within distinct

theorem changesRecords_update (distinct : p.RecordsDistinct) (ofFamily : address.family = family)
    (within : p.RecordWithin id zone domain.print family) :
    p.ChangesRecords (.updateRecord zone domain family id address) ⟨zone, domain, family⟩
      fun _ => (·.map (readdress id address)) :=
  changesRecords_update_within ofFamily within (recordsOf_nodup distinct)

theorem changesRecords_delete (within : p.RecordWithin id zone domain.print family) :
    p.ChangesRecords (.deleteRecord zone id) ⟨zone, domain, family⟩
      fun _ => (·.filter (·.id ≠ id)) where
  lists := by
    rw [perform]
    split <;> rfl
  items := by
    rw [perform]
    split <;> rfl
  elsewhere zone' name family' other := by
    rw [recordsOf_deleteRecord]
    exact filter_ne_of_absent (within.not_mem_elsewhere other)
  here x _ := recordsOf_deleteRecord

theorem changesItems_create : p.ChangesItems (.createItems account id blocks comment) id
    fun created => (· ++ created) where
  lists := (changeItems_frame ..).2.2.1
  records := (changeItems_frame ..).2.1
  elsewhere other ne := by rw [itemsOf_createItems, if_neg ne]
  here created made := by
    cases made
    rw [itemsOf_createItems, if_pos rfl]

theorem changesItems_delete : p.ChangesItems (.deleteItems account id ids) id
    fun _ => (·.filter fun item => !ids.contains item.id) where
  lists := by
    rw [perform]
    split
    · exact (changeItems_frame ..).2.2.1
    · rfl
  records := by
    rw [perform]
    split
    · exact (changeItems_frame ..).2.1
    · rfl
  elsewhere other ne := by rw [itemsOf_deleteItems, if_neg ne]
  here x _ := by rw [itemsOf_deleteItems, if_pos rfl]

theorem changesItems_replace : p.ChangesItems (.replaceItems account id blocks) id
    fun _ _ => newItems p.made blocks where
  lists := (changeItems_frame ..).2.2.1
  records := (changeItems_frame ..).2.1
  elsewhere other ne := by rw [itemsOf_replaceItems, if_neg ne]
  here x _ := by rw [itemsOf_replaceItems, if_pos rfl]

variable {c : Call} {key : RecordsKey} {p' : Provider}

theorem ChangesRecords.frame {change : c.Reply → List Record → List Record}
    {reply : Except Failure c.Reply} (work : p.ChangesRecords c key change)
    (ends : p.Ends c reply p') : p'.lists = p.lists ∧ p'.items = p.items := by
  rcases ends.either with rfl | rfl
  · exact ⟨rfl, rfl⟩
  · exact ⟨work.lists, work.items⟩

/-- Places are told apart by their keys, as these are of domains that were read. -/
theorem ChangesRecords.elsewhere_ends {change : c.Reply → List Record → List Record}
    {reply : Except Failure c.Reply} {key' : RecordsKey} (work : p.ChangesRecords c key change)
    (ends : p.Ends c reply p') (parsed : key.domain.IsParsed) (parsed' : key'.domain.IsParsed)
    (other : key' ≠ key) :
    p'.recordsOf key'.zone key'.domain.print key'.family =
      p.recordsOf key'.zone key'.domain.print key'.family := by
  rcases ends.either with rfl | rfl
  · rfl
  · refine work.elsewhere _ _ _ ?_
    rintro ⟨sameZone, sameName, sameFamily⟩
    have sameDomain := parsed'.eq_of_print parsed sameName
    obtain ⟨zone, domain, family⟩ := key
    obtain ⟨zone', domain', family'⟩ := key'
    cases sameZone
    cases sameDomain
    cases sameFamily
    exact other rfl

theorem ChangesItems.frame {change : c.Reply → List ListItem → List ListItem}
    {reply : Except Failure c.Reply} (work : p.ChangesItems c id change)
    (ends : p.Ends c reply p') : p'.lists = p.lists ∧ p'.records = p.records := by
  rcases ends.either with rfl | rfl
  · exact ⟨rfl, rfl⟩
  · exact ⟨work.lists, work.records⟩

theorem ChangesItems.elsewhere_ends {change : c.Reply → List ListItem → List ListItem}
    {reply : Except Failure c.Reply} {other : String} (work : p.ChangesItems c id change)
    (ends : p.Ends c reply p') (ne : other ≠ id) : p'.itemsOf other = p.itemsOf other := by
  rcases ends.either with rfl | rfl
  · rfl
  · exact work.elsewhere other ne

end Simulation.Provider

namespace Scene

variable {s s' : Scene} {es : List Moment} {c : Call} {key : RecordsKey} {id : String}

theorem Orderly.quiet (h : s.Orderly) (quiet : s.Quiet es s')
    (coherent : s'.CoherentOn fun key => key.domain.IsParsed) : s'.Orderly := by
  refine ⟨?_, coherent⟩
  rw [quiet.provider]
  exact h.numbered

theorem Orderly.reads {ν : Type} {live : ν → Prop} {reply : Except Failure ν} (h : s.Orderly)
    (reads : s.Reads (fun key => key.domain.IsParsed) live es reply s') : s'.Orderly :=
  h.quiet reads.quiet reads.coherent

theorem Faithful.quiet (h : s.Faithful) (quiet : s.Quiet es s')
    (coherent : s'.CoherentOn fun key => key.domain.IsParsed) : s'.Faithful := by
  refine ⟨?_, coherent⟩
  rw [quiet.provider]
  exact h.sound

theorem Faithful.reads {ν : Type} {live : ν → Prop} {reply : Except Failure ν} (h : s.Faithful)
    (reads : s.Reads (fun key => key.domain.IsParsed) live es reply s') : s'.Faithful :=
  h.quiet reads.quiet reads.coherent

theorem CoherentOn.change_records {change : c.Reply → List Record → List Record}
    {reply : Except Failure c.Reply} (h : s.CoherentOn fun key => key.domain.IsParsed)
    (parsed : key.domain.IsParsed) (work : s.provider.ChangesRecords c key change)
    (changed : s.Change c (fun x => patchRecords key (change x)) (dropRecords key) es reply s') :
    s'.CoherentOn fun key => key.domain.IsParsed := by
  obtain ⟨later, _, ends, caches⟩ := changed
  have passed := h.pass later
  obtain ⟨lists, items⟩ := work.frame ends
  cases reply with
  | ok x =>
    refine h.move later ends.zones (by rw [caches]; exact ⟨rfl, rfl⟩) ?_
      (h.indexes_of_same later lists (by rw [caches]; rfl))
      (h.items_of_same later items (by rw [caches]; rfl))
    rw [caches]
    refine passed.records.modify (fun e _ other said => ⟨said.1, ?_⟩) fun v said => ⟨said.1, ?_⟩
    · rw [← said.2]
      exact congrArg Except.ok (work.elsewhere_ends ends parsed said.1 other)
    · obtain ⟨done, same⟩ := ends.of_ok
      have before := Except.ok.inj said.2
      rw [← before, same]
      exact congrArg Except.ok (work.here x done)
  | error e =>
    refine h.move later ends.zones (by rw [caches]; exact ⟨rfl, rfl⟩) ?_
      (h.indexes_of_same later lists (by rw [caches]; rfl))
      (h.items_of_same later items (by rw [caches]; rfl))
    rw [caches]
    refine passed.records.erase fun e _ other said => ⟨said.1, ?_⟩
    rw [← said.2]
    exact congrArg Except.ok (work.elsewhere_ends ends parsed said.1 other)

theorem Orderly.change_records {change : c.Reply → List Record → List Record}
    {reply : Except Failure c.Reply} (h : s.Orderly) (parsed : key.domain.IsParsed)
    (placed : s.provider.Places c) (work : s.provider.ChangesRecords c key change)
    (changed : s.Change c (fun x => patchRecords key (change x)) (dropRecords key) es reply s') :
    s'.Orderly :=
  ⟨h.numbered.ends placed changed.ends, h.coherent.change_records parsed work changed⟩

theorem Faithful.change_records {change : c.Reply → List Record → List Record}
    {reply : Except Failure c.Reply} (h : s.Faithful) (parsed : key.domain.IsParsed)
    (admitted : s.provider.Admits c) (work : s.provider.ChangesRecords c key change)
    (changed : s.Change c (fun x => patchRecords key (change x)) (dropRecords key) es reply s') :
    s'.Faithful :=
  ⟨h.sound.ends admitted changed.ends, h.coherent.change_records parsed work changed⟩

variable {K : RecordsKey → Prop}

theorem CoherentOn.forget_items {change : c.Reply → List ListItem → List ListItem}
    {reply : Except Failure c.Reply} (h : s.CoherentOn K) (later : s.now ≤ s'.now)
    (work : s.provider.ChangesItems c id change)
    (ends : s.provider.Ends c reply s'.provider) (caches : s'.caches = dropItems id s.caches) :
    s'.CoherentOn K := by
  obtain ⟨lists, records⟩ := work.frame ends
  refine h.move later ends.zones (by rw [caches]; exact ⟨rfl, rfl⟩)
    (h.records_of_same later records (by rw [caches]; rfl))
    (h.indexes_of_same later lists (by rw [caches]; rfl)) ?_
  rw [caches]
  refine (h.pass later).items.erase fun e _ other said account => ?_
  rw [← said account]
  exact congrArg Except.ok (work.elsewhere_ends ends other)

theorem CoherentOn.change_items {change : c.Reply → List ListItem → List ListItem}
    {reply : Except Failure c.Reply} (h : s.CoherentOn K)
    (work : s.provider.ChangesItems c id change)
    (changed : s.Change c (fun x => patchItems id (change x)) (dropItems id) es reply s') :
    s'.CoherentOn K := by
  obtain ⟨later, _, ends, caches⟩ := changed
  cases reply with
  | error e => exact h.forget_items later work ends caches
  | ok x =>
    obtain ⟨lists, records⟩ := work.frame ends
    refine h.move later ends.zones (by rw [caches]; exact ⟨rfl, rfl⟩)
      (h.records_of_same later records (by rw [caches]; rfl))
      (h.indexes_of_same later lists (by rw [caches]; rfl)) ?_
    rw [caches]
    refine (h.pass later).items.modify (fun e _ other said account => ?_) fun v said account => ?_
    · rw [← said account]
      exact congrArg Except.ok (work.elsewhere_ends ends other)
    · obtain ⟨done, same⟩ := ends.of_ok
      have before := Except.ok.inj (said account)
      rw [← before, same]
      exact congrArg Except.ok (work.here x done)

theorem Orderly.change_items {change : c.Reply → List ListItem → List ListItem}
    {reply : Except Failure c.Reply} (h : s.Orderly) (placed : s.provider.Places c)
    (work : s.provider.ChangesItems c id change)
    (changed : s.Change c (fun x => patchItems id (change x)) (dropItems id) es reply s') :
    s'.Orderly :=
  ⟨h.numbered.ends placed changed.ends, h.coherent.change_items work changed⟩

theorem Faithful.change_items {change : c.Reply → List ListItem → List ListItem}
    {reply : Except Failure c.Reply} (h : s.Faithful) (admitted : s.provider.Admits c)
    (work : s.provider.ChangesItems c id change)
    (changed : s.Change c (fun x => patchItems id (change x)) (dropItems id) es reply s') :
    s'.Faithful :=
  ⟨h.sound.ends admitted changed.ends, h.coherent.change_items work changed⟩

end Scene

end AddressSync
