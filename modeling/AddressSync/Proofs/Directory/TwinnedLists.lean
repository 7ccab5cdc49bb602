import AddressSync.Proofs.Directory.Twinned

/-! Lists and their items in two scenes that have the like of each other. -/

namespace AddressSync

open Sync Simulation Directory

open List (Forall₂)

namespace Scene

variable {T : Twins} {name : String} {F F' : List Fault} {target : ListTarget} {s s' : Scene}

theorem Twinned.index_forgotten (h : s.Twinned T name F F' s') :
    Twinned T name F F'
      ⟨s.now, s.provider, { s.caches with indexes := s.caches.indexes.erase target.account }⟩
      ⟨s'.now, s'.provider, { s'.caches with indexes := s'.caches.indexes.erase target.account }⟩ :=
  ⟨h.provider, h.zones, h.owners, h.records, h.indexes.erase, h.lifetime, h.items⟩

theorem Twinned.list_made (h : s.Twinned T name F F' s') (fated : T.Fated name F F')
    (proper : T.Proper) :
    let list := s.provider.nextList target.name target.description
    let list' := s'.provider.nextList target.name target.description
    let q := (s.provider.perform (.createList target.account target.name target.description)).2
    let q' := (s'.provider.perform (.createList target.account target.name target.description)).2
    Twinned T name F F'
      ⟨s.now, q, { s.caches with
        indexes := s.caches.indexes.modify s.now target.account (·.insert list)
        items := s.caches.items.set s.now list.id [] }⟩
      ⟨s'.now, q', { s'.caches with
        indexes := s'.caches.indexes.modify s'.now target.account (·.insert list')
        items := s'.caches.items.set s'.now list'.id [] }⟩ := by
  intro list list' q q'
  have same : T.SameList list list' := h.provider.nextList target.name target.description
  have provider : T.Alike name q q' := h.provider.createList proper
  let items := s.caches.items.set s.now list.id []
  let items' := s'.caches.items.set s'.now list'.id []
  have lifetime : items.lifetime = items'.lifetime := h.lifetime
  have empty : Option.Rel (Forall₂ T.SameItem)
      (itemsRead? F ⟨s.now, q, { s.caches with items }⟩ list.id)
      (itemsRead? F' ⟨s'.now, q', { s'.caches with items := items' }⟩ list'.id) := by
    have cached : items.get? s.now list.id = if 0 < items'.lifetime then some [] else none :=
      lifetime ▸ Cache.get?_set_now
    have cached' : items'.get? s'.now list'.id = if 0 < items'.lifetime then some [] else none :=
      Cache.get?_set_now
    -- Without a lifetime nothing is cached, and the list is read at the provider.
    by_cases lasting : 0 < items'.lifetime
    · unfold itemsRead?
      dsimp only
      rw [cached, cached', if_pos lasting]
      exact .some .nil
    · rw [if_neg lasting] at cached cached'
      rw [itemsRead?_of_missed cached, itemsRead?_of_missed cached',
        fated.lists .listItems (by decide) _ _ same.id]
      split
      · exact .none
      · exact .some (provider.items _ _ same.id)
  have held := h.of_items proper same.id provider lifetime empty
    (fun other ne => ⟨Provider.itemsOf_createList.trans (if_neg ne),
      Cache.get?_set_of_ne ne (Nat.le_refl _)⟩)
    fun other ne => ⟨Provider.itemsOf_createList.trans (if_neg ne),
      Cache.get?_set_of_ne ne (Nat.le_refl _)⟩
  exact ⟨held.provider, held.zones, held.owners, held.records,
    held.indexes.modify fun _ _ related => related.insert same, held.lifetime, held.items⟩

theorem Twinned.list_unheard (h : s.Twinned T name F F' s') (proper : T.Proper)
    (numbered : s.provider.Numbered) (numbered' : s'.provider.Numbered) :
    Twinned T name F F'
      ⟨s.now, (s.provider.perform (.createList target.account target.name target.description)).2,
        { s.caches with indexes := s.caches.indexes.erase target.account }⟩
      ⟨s'.now, (s'.provider.perform (.createList target.account target.name target.description)).2,
        { s'.caches with indexes := s'.caches.indexes.erase target.account }⟩ := by
  have held {p : Provider} (numbered : p.Numbered) (id : String) :
      (p.perform (.createList target.account target.name target.description)).2.itemsOf id =
        p.itemsOf id := by
    rw [Provider.itemsOf_createList]
    split
    · next new =>
      rw [new]
      exact (numbered.unused _ (Nat.lt_succ_self _)).items.symm
    · rfl
  refine ⟨h.provider.createList proper, h.zones, h.owners, h.records, h.indexes.erase, h.lifetime,
    fun id id' there => ?_⟩
  have read := h.items id id' there
  unfold itemsRead? at read ⊢
  dsimp only
  rwa [held numbered, held numbered']

theorem run_items (faults : List Fault) (target : ListTarget) (id : String) (s : Scene) :
    (s.run faults (Directory.items target id)).1.toOption = s.itemsRead? faults id ∧
      ∃ items : Cache String (List ListItem), items.lifetime = s.caches.items.lifetime ∧
        (s.run faults (Directory.items target id)).2 =
          ⟨s.now, s.provider, { s.caches with items }⟩ ∧
        ∀ other, itemsRead? faults ⟨s.now, s.provider, { s.caches with items }⟩ other =
          s.itemsRead? faults other := by
  have unstored : ∃ items : Cache String (List ListItem),
      items.lifetime = s.caches.items.lifetime ∧
        s = ⟨s.now, s.provider, { s.caches with items }⟩ ∧
        ∀ other, itemsRead? faults ⟨s.now, s.provider, { s.caches with items }⟩ other =
          s.itemsRead? faults other :=
    ⟨s.caches.items, rfl, rfl, fun _ => rfl⟩
  rw [Directory.items, run_fetch faults (silent_log _ _ _) rfl]
  cases found : s.caches.items.get? s.now id with
  | some held =>
    refine ⟨?_, unstored⟩
    rw [itemsRead?, found]
    rfl
  | none =>
    cases struck : struck? faults .listItems id with
    | some fault =>
      simp only [kindOf, targetOf, struck]
      refine ⟨?_, unstored⟩
      rw [itemsRead?, found, fate?, struck]
      rfl
    | none =>
      simp only [kindOf, targetOf, struck, Provider.perform]
      have read : s.itemsRead? faults id = some (s.provider.itemsOf id) := by
        rw [itemsRead?, found, fate?, struck]
        rfl
      refine ⟨read.symm, s.caches.items.set s.now id (s.provider.itemsOf id), rfl, rfl, ?_⟩
      intro other
      by_cases here : other = id
      · subst here
        rw [read, itemsRead?, fate?, struck]
        dsimp only
        rw [Cache.get?_set_now]
        by_cases lasting : 0 < s.caches.items.lifetime <;> simp [lasting]
      · exact itemsRead?_congr rfl (Cache.get?_set_of_ne here (Nat.le_refl _))

end Scene

namespace Directory

variable {T : Twins} {name id id' : String} {F F' : List Fault} {target : ListTarget}
  {P : Provider → Provider → Prop} {s s' : Scene} (fated : T.Fated name F F')

include fated

theorem abreast_findList :
    Abreast F F' (fun s s' => s.Twinned T name F F' s' ∧ P s.provider s'.provider)
      (Echo (Option.Rel T.SameList)) (findList target) (findList target) := by
  have indexed : Abreast F F' (fun s s' => s.Twinned T name F F' s' ∧ P s.provider s'.provider)
      (Echo T.SameIndex) (index target.account) (index target.account) := by
    refine abreast_fetch (silent_log _ _ _) (silent_log _ _ _) rfl rfl
      (fated.named .listLists (by decide) _) (fun s s' h => ?_) (fun s s' h => ?_)
      fun s s' v v' h same => ⟨?_, h.2⟩
    · exact h.1.indexes.get? target.account trivial
    · exact .ok (Twins.sameIndex_ofLists (h.1.provider.listsOf target.account))
    · obtain ⟨h, _⟩ := h
      exact ⟨h.provider, h.zones, h.owners, h.records, h.indexes.set same, h.lifetime, h.items⟩
  refine indexed.bind fun reply reply' echo => ?_
  cases echo with
  | error e e' => exact abreast_pure (.error e e')
  | ok same => exact abreast_pure (.ok (same.find? target.name))

variable (proper : T.Proper)

include proper

theorem level_obtainList (h : s.Twinned T name F F' s') (numbered : s.provider.Numbered)
    (numbered' : s'.provider.Numbered) :
    Level F F' (Scene.Twinned T name F F') (Echo fun r r' => T.SameList r.1 r'.1 ∧ r.2 = r'.2)
      (obtainList target) (obtainList target) s s' := by
  have found : Abreast F F' _ _ (findList target) (findList target) :=
    abreast_findList (P := fun p p' => p.Numbered ∧ p'.Numbered) fated
  refine (found s s' ⟨h, numbered, numbered'⟩).bind ?_
  rintro reply reply' t t' echo ⟨h, numbered, numbered'⟩
  rcases echo with ⟨listed⟩ | ⟨e, e'⟩
  · rcases listed with same | _
    · have given (list list' : NamedList) (same : T.SameList list list') :
          Abreast F F' (Scene.Twinned T name F F') (Echo fun r r' => T.SameList r.1 r'.1 ∧ r.2 = r'.2)
            (pure (.ok (list, false))) (pure (.ok (list', false))) :=
        abreast_pure (.ok ⟨same, rfl⟩)
      exact abreast_guard (silent_log _ _ _) (silent_log _ _ _) (given _ _ same) t t' h
    · have same := h.provider.nextList target.name target.description
      exact level_call (fated.named .createList (by decide) _)
        ⟨.ok ⟨same, rfl⟩, h.list_made fated proper⟩
        (fun e e' => ⟨.error e e', h.list_unheard proper numbered numbered'⟩)
        fun e e' => ⟨.error e e', h.index_forgotten⟩
  · exact ⟨.error e e', h⟩

section

variable (same : T.lists id id')

include same

omit fated proper in
theorem abreast_items :
    Abreast F F' (Scene.Twinned T name F F') (Echo (Forall₂ T.SameItem)) (items target id)
      (items target id') := by
  intro s s' h
  obtain ⟨given, items, lifetime, after, reads⟩ := s.run_items F target id
  obtain ⟨given', items', lifetime', after', reads'⟩ := s'.run_items F' target id'
  have related := h.items id id' same
  rw [← given, ← given'] at related
  refine ⟨?_, ?_⟩
  · generalize (s.run F (Directory.items target id)).1 = reply at related
    generalize (s'.run F' (Directory.items target id')).1 = reply' at related
    cases reply <;> cases reply' <;> cases related
    · exact .error _ _
    · exact .ok ‹_›
  · rw [after, after']
    refine ⟨h.provider, h.zones, h.owners, h.records, h.indexes, ?_, fun id id' same => ?_⟩
    · exact lifetime.trans (h.lifetime.trans lifetime'.symm)
    · rw [reads, reads']
      exact h.items id id' same

theorem abreast_changeItems {c c' : Call} {Q : c.Reply → c'.Reply → Prop}
    {change : c.Reply → List ListItem → List ListItem}
    {change' : c'.Reply → List ListItem → List ListItem}
    (fate : fate? F (kindOf c) (targetOf c) = fate? F' (kindOf c') (targetOf c'))
    (work : ∀ p : Provider, p.ChangesItems c id change)
    (work' : ∀ p : Provider, p.ChangesItems c' id' change')
    (performed : ∀ p p', T.Alike name p p' →
      Echo Q (p.perform c).1 (p'.perform c').1 ∧ T.Alike name (p.perform c).2 (p'.perform c').2)
    (changed : ∀ x x', Q x x' → ∀ items items', Forall₂ T.SameItem items items' →
      Forall₂ T.SameItem (change x items) (change' x' items')) :
    Abreast F F' (Scene.Twinned T name F F') (Echo Q)
      (Directory.change c (fun x => patchItems id (change x)) (dropItems id))
      (Directory.change c' (fun x => patchItems id' (change' x)) (dropItems id')) := by
  have forgotten (s s' : Scene) {q q' : Provider} (alike : T.Alike name q q') :
      Option.Rel (Forall₂ T.SameItem)
        (Scene.itemsRead? F ⟨s.now, q, dropItems id s.caches⟩ id)
        (Scene.itemsRead? F' ⟨s'.now, q', dropItems id' s'.caches⟩ id') := by
    rw [Scene.itemsRead?_of_missed Cache.get?_erase, Scene.itemsRead?_of_missed Cache.get?_erase,
      fated.lists .listItems (by decide) id id' same]
    split
    · exact .none
    · exact .some (alike.items id id' same)
  refine abreast_change fate (fun s s' h => (performed _ _ h.provider).1)
    (fun s s' x x' h done done' related => ?_) (fun s s' h => ?_) fun s s' h => ?_
  · refine h.of_items proper same (performed _ _ h.provider).2 h.lifetime ?_
      (fun other ne => ⟨(work _).elsewhere other ne, Cache.get?_modify_of_ne ne (Nat.le_refl _)⟩)
      fun other ne => ⟨(work' _).elsewhere other ne, Cache.get?_modify_of_ne ne (Nat.le_refl _)⟩
    have patched := Scene.itemsRead?_patch (F := F) ((work s.provider).here x done)
    have patched' := Scene.itemsRead?_patch (F := F') ((work' s'.provider).here x' done')
    unfold patchItems at patched patched'
    rw [patched, patched']
    exact (h.items id id' same).map (changed x x' related)
  · exact h.of_items proper same (performed _ _ h.provider).2 h.lifetime
      (forgotten s s' (performed _ _ h.provider).2)
      (fun other ne => ⟨(work _).elsewhere other ne, Cache.get?_erase_of_ne ne⟩)
      fun other ne => ⟨(work' _).elsewhere other ne, Cache.get?_erase_of_ne ne⟩
  · exact h.of_items proper same h.provider h.lifetime (forgotten s s' h.provider)
      (fun other ne => ⟨rfl, Cache.get?_erase_of_ne ne⟩)
      fun other ne => ⟨rfl, Cache.get?_erase_of_ne ne⟩

theorem abreast_addItems (blocks : List Block) :
    Abreast F F' (Scene.Twinned T name F F') (Echo (Forall₂ T.SameItem)) (addItems target id blocks)
      (addItems target id' blocks) := by
  refine abreast_changeItems fated proper same ?_ (fun _ => Provider.changesItems_create)
    (fun _ => Provider.changesItems_create) (fun p p' h => ?_)
    fun _ _ created _ _ h => List.rel_append h created
  · exact fated.lists .createItems (by decide) id id' same
  · exact ⟨.ok (h.numbers.newItems blocks), h.createItems proper same⟩

theorem abreast_removeItems {ids ids' : List String} (gone : Forall₂ T.items ids ids') :
    Abreast F F' (Scene.Twinned T name F F') (Echo fun _ _ => True) (removeItems target id ids)
      (removeItems target id' ids') := by
  refine abreast_changeItems fated proper same ?_ (fun _ => Provider.changesItems_delete)
    (fun _ => Provider.changesItems_delete) (fun p p' h => ⟨?_, h.deleteItems proper same gone⟩)
    fun _ _ _ _ _ h => Twins.filter_items proper gone h
  · exact fated.lists .deleteItems (by decide) id id' same
  · rw [Provider.perform, Provider.perform]
    split <;> split <;> exact .ok trivial

end

end Directory

end AddressSync
