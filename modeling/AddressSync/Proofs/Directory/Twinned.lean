import AddressSync.Proofs.Directory.Changes
import AddressSync.Proofs.Provider.Twins

/-! Two scenes with the like of each other at the provider and in the caches, but for the records of
one name. Each operation on anything else gives the like in both, and leaves them so. -/

namespace AddressSync

open Sync Simulation Directory

open List (Forall₂)

namespace Simulation.Twins

def SameIndex (T : Twins) (x x' : ListIndex) : Prop := Forall₂ T.SameList x.lists x'.lists

/-- What is the same meets the same fate, but for the records of the name. -/
structure Fated (T : Twins) (name : String) (F F' : List Fault) : Prop where
  named : ∀ kind ∈ [Kind.listZones, .listLists, .createList], ∀ target,
    fate? F kind target = fate? F' kind target
  placed : ∀ kind ∈ [Kind.listRecords, .createRecord], ∀ target, target ≠ name →
    fate? F kind target = fate? F' kind target
  records : ∀ kind ∈ [Kind.updateRecord, .deleteRecord], ∀ id id', T.records id id' →
    fate? F kind id = fate? F' kind id'
  lists : ∀ kind ∈ [Kind.listItems, .createItems, .deleteItems], ∀ id id', T.lists id id' →
    fate? F kind id = fate? F' kind id'

variable {T : Twins} {x x' : ListIndex} {l l' : NamedList}

theorem SameIndex.find? (h : T.SameIndex x x') (name : String) :
    Option.Rel T.SameList (x.find? name) (x'.find? name) := by
  refine List.Forall₂.find? h fun l l' same => ?_
  rw [same.name]

theorem SameIndex.insert (h : T.SameIndex x x') (same : T.SameList l l') :
    T.SameIndex (x.insert l) (x'.insert l') := by
  refine List.rel_append (List.rel_filter (fun _ _ other => ?_) h) (.cons same .nil)
  simp only [same.name, other.name]

theorem sameIndex_ofLists {lists lists' : List NamedList} (h : Forall₂ T.SameList lists lists') :
    T.SameIndex (ListIndex.ofLists lists) (ListIndex.ofLists lists') := by
  refine List.rel_foldl (fun _ _ same _ _ => same.insert) .nil (List.rel_filter (fun _ _ same => ?_) h)
  simp only [NamedList.holdsAddresses, same.kind]

end Simulation.Twins

namespace Scene

def itemsRead? (faults : List Fault) (s : Scene) (id : String) : Option (List ListItem) :=
  match s.caches.items.get? s.now id, fate? faults .listItems id with
  | some items, _ => some items
  | none, none => some (s.provider.itemsOf id)
  | none, some _ => none

/-- But for the records of the name, the scenes have the same at the provider and in the caches. Items
that are cached in one of them only are the same for those who read them. -/
structure Twinned (T : Twins) (name : String) (F F' : List Fault) (s s' : Scene) : Prop where
  provider : T.Alike name s.provider s'.provider
  zones : Cache.Agrees s.now s'.now (fun _ => True) Eq s.caches.zones s'.caches.zones
  owners : Cache.Agrees s.now s'.now (fun _ => True) Eq s.caches.owners s'.caches.owners
  records : Cache.Agrees s.now s'.now (fun key => key.domain.print ≠ name) (Forall₂ T.SameRecord)
    s.caches.records s'.caches.records
  indexes : Cache.Agrees s.now s'.now (fun _ => True) T.SameIndex s.caches.indexes s'.caches.indexes
  lifetime : s.caches.items.lifetime = s'.caches.items.lifetime
  items : ∀ id id', T.lists id id' →
    Option.Rel (Forall₂ T.SameItem) (s.itemsRead? F id) (s'.itemsRead? F' id')

variable {T : Twins} {name id id' : String} {F F' : List Fault} {s s' : Scene} {q q' : Provider}

theorem Twinned.of_records (h : s.Twinned T name F F' s') (provider : T.Alike name q q')
    (items : q.items = s.provider.items) (items' : q'.items = s'.provider.items)
    {records records' : Cache RecordsKey (List Record)}
    (cached : Cache.Agrees s.now s'.now (fun key => key.domain.print ≠ name) (Forall₂ T.SameRecord)
      records records') :
    Twinned T name F F' ⟨s.now, q, { s.caches with records }⟩
      ⟨s'.now, q', { s'.caches with records := records' }⟩ := by
  refine ⟨provider, h.zones, h.owners, cached, h.indexes, h.lifetime, fun id id' same => ?_⟩
  have read := h.items id id' same
  unfold itemsRead? Provider.itemsOf at read ⊢
  rwa [items, items']

theorem itemsRead?_patch {change : List ListItem → List ListItem}
    (here : q.itemsOf id = change (s.provider.itemsOf id)) :
    itemsRead? F ⟨s.now, q, patchItems id change s.now s.caches⟩ id =
      (s.itemsRead? F id).map change := by
  unfold itemsRead? patchItems
  dsimp only
  rw [Cache.get?_modify (Nat.le_refl _), here]
  cases s.caches.items.get? s.now id with
  | some items => rfl
  | none => cases fate? F .listItems id <;> rfl

theorem itemsRead?_congr {caches : Caches} (same : q.itemsOf id = s.provider.itemsOf id)
    (cached : caches.items.get? s.now id = s.caches.items.get? s.now id) :
    itemsRead? F ⟨s.now, q, caches⟩ id = s.itemsRead? F id := by
  unfold itemsRead?
  dsimp only
  rw [same, cached]

theorem itemsRead?_of_missed {caches : Caches} (missed : caches.items.get? s.now id = none) :
    itemsRead? F ⟨s.now, q, caches⟩ id =
      if (fate? F .listItems id).isSome then none else some (q.itemsOf id) := by
  unfold itemsRead?
  dsimp only
  rw [missed]
  cases fate? F .listItems id <;> rfl

theorem Twinned.of_items (h : s.Twinned T name F F' s') (proper : T.Proper)
    (same : T.lists id id') (provider : T.Alike name q q')
    {items items' : Cache String (List ListItem)} (lifetime : items.lifetime = items'.lifetime)
    (here : Option.Rel (Forall₂ T.SameItem)
      (itemsRead? F ⟨s.now, q, { s.caches with items }⟩ id)
      (itemsRead? F' ⟨s'.now, q', { s'.caches with items := items' }⟩ id'))
    (elsewhere : ∀ other, other ≠ id → q.itemsOf other = s.provider.itemsOf other ∧
      items.get? s.now other = s.caches.items.get? s.now other)
    (elsewhere' : ∀ other, other ≠ id' → q'.itemsOf other = s'.provider.itemsOf other ∧
      items'.get? s'.now other = s'.caches.items.get? s'.now other) :
    Twinned T name F F' ⟨s.now, q, { s.caches with items }⟩
      ⟨s'.now, q', { s'.caches with items := items' }⟩ := by
  refine ⟨provider, h.zones, h.owners, h.records, h.indexes, lifetime, fun x x' there => ?_⟩
  have both : x = id ↔ x' = id' := Relator.rel_eq proper.lists there same
  by_cases equal : x = id
  · obtain rfl := both.mp equal
    rwa [equal]
  · obtain ⟨held, cached⟩ := elsewhere x equal
    obtain ⟨held', cached'⟩ := elsewhere' x' (mt both.mpr equal)
    rw [itemsRead?_congr held cached, itemsRead?_congr held' cached']
    exact h.items x x' there

end Scene

namespace Directory

variable {T : Twins} {name zone id id' : String} {F F' : List Fault} {domain : Domain}
  {family : Family} {address : Address} {target : ListTarget} {P : Provider → Provider → Prop}

section

variable (fated : T.Fated name F F')

include fated

theorem abreast_zones (of : String) :
    Abreast F F' (Scene.Twinned T name F F') (Echo Eq) (zones of) (zones of) := by
  have same := fated.named .listZones (by decide) of
  refine abreast_fetch (silent_log _ _ _) (silent_log _ _ _) rfl rfl same (fun s s' h => ?_)
    (fun s s' h => ?_) fun s s' v v' h same => ?_
  · exact h.zones.get? of trivial
  · rw [Provider.perform, Provider.perform, h.provider.zones]
    exact .ok rfl
  · exact ⟨h.provider, h.zones.set same, h.owners, h.records, h.indexes, h.lifetime, h.items⟩

theorem abreast_ownerAmong (domain : Domain) (names : List String) :
    Abreast F F' (Scene.Twinned T name F F') (Echo Eq) (ownerAmong domain names)
      (ownerAmong domain names) := by
  induction names with
  | nil => exact abreast_pure (.error _ _)
  | cons of rest ih =>
    refine (abreast_zones fated of).bind fun reply reply' echo => ?_
    cases echo with
    | error e e' => exact abreast_pure (.error e e')
    | @ok found _ same =>
      subst same
      have remarked : Silent (found.forM (remark of)) := silent_forM (silent_remark of) found
      refine abreast_silent remarked remarked ?_
      split
      · exact ih
      · refine abreast_silent (silent_log _ _ _) (silent_log _ _ _) ?_
        refine abreast_revise (fun s s' h => ?_) (abreast_pure (.ok rfl))
        exact ⟨h.provider, h.zones, h.owners.set rfl, h.records, h.indexes, h.lifetime, h.items⟩
      · exact abreast_pure (.error _ _)

theorem abreast_owner (domain : Domain) :
    Abreast F F' (Scene.Twinned T name F F') (Echo Eq) (owner domain) (owner domain) := by
  intro s s' h
  have cached := h.owners.get? domain trivial
  have hit (zone : String) : Abreast F F' (Scene.Twinned T name F F') (Echo Eq)
      (do
        log .debug "zone cache hit" [("domain", .text domain.print), ("zone_id", .text zone)]
        return .ok zone)
      (do
        log .debug "zone cache hit" [("domain", .text domain.print), ("zone_id", .text zone)]
        return .ok zone) :=
    abreast_silent (silent_log _ _ _) (silent_log _ _ _) (abreast_pure (.ok rfl))
  refine level_look ?_
  dsimp only
  rcases found : s.caches.owners.get? s.now domain with _ | zone <;>
    rcases found' : s'.caches.owners.get? s'.now domain with _ | zone' <;> rw [found, found'] at cached
  · exact abreast_ownerAmong fated domain _ s s' h
  · cases cached
  · cases cached
  · cases cached with
    | some same =>
      subst same
      exact hit zone s s' h

theorem abreast_records (other : domain.print ≠ name) :
    Abreast F F' (Scene.Twinned T name F F') (Echo (Forall₂ T.SameRecord))
      (records zone domain family) (records zone domain family) := by
  refine abreast_fetch (silent_log _ _ _) (silent_log _ _ _) rfl rfl
    (fated.placed .listRecords (by decide) _ other) (fun s s' h => ?_) (fun s s' h => ?_)
    fun s s' v v' h same => ?_
  · exact h.records.get? _ other
  · exact .ok (h.provider.recordsOf other)
  · exact h.of_records h.provider rfl rfl (h.records.set same)

end

theorem abreast_changeRecords {c c' : Call} {key : RecordsKey} {Q : c.Reply → c'.Reply → Prop}
    {change : c.Reply → List Record → List Record} {change' : c'.Reply → List Record → List Record}
    (fated : fate? F (kindOf c) (targetOf c) = fate? F' (kindOf c') (targetOf c'))
    (items : ∀ p : Provider, (p.perform c).2.items = p.items)
    (items' : ∀ p : Provider, (p.perform c').2.items = p.items)
    (performed : ∀ p p', T.Alike name p p' →
      Echo Q (p.perform c).1 (p'.perform c').1 ∧ T.Alike name (p.perform c).2 (p'.perform c').2)
    (changed : ∀ x x', Q x x' → ∀ records records', Forall₂ T.SameRecord records records' →
      Forall₂ T.SameRecord (change x records) (change' x' records')) :
    Abreast F F' (Scene.Twinned T name F F') (Echo Q)
      (Directory.change c (fun x => patchRecords key (change x)) (dropRecords key))
      (Directory.change c' (fun x => patchRecords key (change' x)) (dropRecords key)) := by
  refine abreast_change fated (fun s s' h => (performed _ _ h.provider).1)
    (fun s s' x x' h _ _ same => ?_) (fun s s' h => ?_) fun s s' h => ?_
  · exact h.of_records (performed _ _ h.provider).2 (items _) (items' _)
      (h.records.modify (changed x x' same))
  · exact h.of_records (performed _ _ h.provider).2 (items _) (items' _) h.records.erase
  · exact h.of_records h.provider rfl rfl h.records.erase

variable (fated : T.Fated name F F')

include fated

theorem abreast_createRecord (other : domain.print ≠ name) (attributes : Attributes) :
    Abreast F F' (Scene.Twinned T name F F') (Echo T.SameRecord)
      (createRecord zone domain family address attributes)
      (createRecord zone domain family address attributes) := by
  have items (p : Provider) :
      (p.perform (.createRecord zone domain family address attributes)).2.items = p.items := rfl
  refine abreast_changeRecords (fated.placed .createRecord (by decide) _ other) items items
    (fun p p' h => ?_) fun r r' same records records' h => ?_
  · obtain ⟨same, after⟩ := h.createRecord other
    exact ⟨.ok same, after⟩
  · exact List.rel_append h (.cons same .nil)

variable (proper : T.Proper)

include proper

section

variable (ids : T.records id id')

include ids

theorem abreast_updateRecord :
    Abreast F F' (Scene.Twinned T name F F') (Echo fun _ _ => True)
      (updateRecord zone domain family id address) (updateRecord zone domain family id' address) := by
  have items (id : String) (p : Provider) :
      (p.perform (.updateRecord zone domain family id address)).2.items = p.items := by
    rw [Provider.perform]
    split <;> rfl
  refine abreast_changeRecords (fated.records .updateRecord (by decide) _ _ ids) (items id) (items id')
    (fun p p' h => h.updateRecord proper ids) fun _ _ _ records records' h => ?_
  refine List.rel_map (fun r r' same => ?_) h
  have both : r.id = id ↔ r'.id = id' := Relator.rel_eq proper.records same.id ids
  unfold readdress
  by_cases here : r.id = id
  · rw [if_pos here, if_pos (both.mp here)]
    exact ⟨same.id, rfl, same.attributes⟩
  · rwa [if_neg here, if_neg (mt both.mpr here)]

theorem abreast_deleteRecord :
    Abreast F F' (Scene.Twinned T name F F') (Echo fun _ _ => True)
      (deleteRecord zone domain family id) (deleteRecord zone domain family id') := by
  have items (id : String) (p : Provider) : (p.perform (.deleteRecord zone id)).2.items = p.items := by
    rw [Provider.perform]
    split <;> rfl
  refine abreast_changeRecords (fated.records .deleteRecord (by decide) _ _ ids) (items id) (items id')
    (fun p p' h => h.deleteRecord proper ids) fun _ _ _ records records' h => ?_
  exact Twins.filter_records proper ids h

end

end Directory

end AddressSync
