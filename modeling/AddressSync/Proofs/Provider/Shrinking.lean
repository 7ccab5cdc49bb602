import AddressSync.Proofs.Provider.Owner

/-! A provider that only loses records and lists. What is missing at it stays missing, and what was
distinct stays distinct. -/

namespace AddressSync.Simulation.Provider

variable {p p' p'' : Provider} {zone name id account : String} {domain : Domain} {family : Family}
  {target : ListTarget} {l l' : NamedList}

/-- From one state of the provider to another, nothing came to it but items. -/
structure Shrinks (p p' : Provider) : Prop where
  zones : p'.zones = p.zones
  records : p'.records.Sublist p.records
  lists : p'.lists.Sublist p.lists

theorem Shrinks.refl (p : Provider) : p.Shrinks p := ⟨rfl, .refl _, .refl _⟩

theorem Shrinks.trans (first : p.Shrinks p') (rest : p'.Shrinks p'') : p.Shrinks p'' where
  zones := rest.zones.trans first.zones
  records := rest.records.trans first.records
  lists := rest.lists.trans first.lists

theorem shrinks_deleteRecord : p.Shrinks (p.perform (.deleteRecord zone id)).2 := by
  rw [perform]
  split
  · exact ⟨rfl, List.filter_sublist, .refl _⟩
  · exact .refl p

theorem shrinks_deleteList : p.Shrinks (p.perform (.deleteList account id)).2 :=
  ⟨rfl, .refl _, List.filter_sublist⟩

theorem shrinks_replaceItems {blocks : List Block} :
    p.Shrinks (p.perform (.replaceItems account id blocks)).2 := by
  obtain ⟨zones, records, lists, _⟩ := p.changeItems_frame id fun _ => newItems p.made blocks
  refine ⟨zones, ?_, ?_⟩ <;> rw [perform]
  · rw [records]
  · rw [lists]

theorem Shrinks.ownerOf (h : p.Shrinks p') (domain : Domain) :
    p'.ownerOf domain = p.ownerOf domain :=
  ownerAmong_congr h.zones domain domain.zoneNames

theorem Shrinks.recordsOf (h : p.Shrinks p') :
    (p'.recordsOf zone name family).Sublist (p.recordsOf zone name family) :=
  (h.records.filter _).map _

theorem Shrinks.listing_eq_nil (h : p.Shrinks p') (none : p.listing domain family = []) :
    p'.listing domain family = [] := by
  rw [listing] at none ⊢
  rw [h.ownerOf domain]
  split
  · next zone owned =>
    rw [owned] at none
    exact List.sublist_nil.mp (none ▸ h.recordsOf)
  · rfl

theorem Shrinks.listsOf (h : p.Shrinks p') : (p'.listsOf account).Sublist (p.listsOf account) :=
  (h.lists.filter _).map _

theorem Shrinks.recordsDistinct (h : p.Shrinks p') (distinct : p.RecordsDistinct) :
    p'.RecordsDistinct :=
  distinct.sublist (h.records.map _)

theorem Shrinks.recordWithin (h : p.Shrinks p') (within : p.RecordWithin id zone name family) :
    p'.RecordWithin id zone name family :=
  fun r mem => within r (h.records.subset mem)

theorem Shrinks.namesDistinct (h : p.Shrinks p')
    (distinct : ListIndex.NamesDistinct (p.listsOf account)) :
    ListIndex.NamesDistinct (p'.listsOf account) :=
  List.Nodup.sublist ((h.listsOf.filter _).map _) distinct

structure Names (p : Provider) (target : ListTarget) (l : NamedList) : Prop where
  mem : l ∈ p.listsOf target.account
  holds : l.holdsAddresses
  name : l.name = target.name

def HasList (p : Provider) (target : ListTarget) : Prop := ∃ l, p.Names target l

theorem Shrinks.hasList (h : p.Shrinks p') (has : p'.HasList target) : p.HasList target := by
  obtain ⟨l, mem, holds, name⟩ := has
  exact ⟨l, h.listsOf.subset mem, holds, name⟩

theorem names_of_find? (found : p.named? target = some l) : p.Names target l := by
  obtain ⟨mem, holds⟩ := ListIndex.mem_ofLists (List.mem_of_find?_eq_some found)
  have named := List.find?_some found
  exact ⟨mem, holds, by simpa using named⟩

section

variable (distinct : ListIndex.NamesDistinct (p.listsOf target.account))

include distinct

theorem not_hasList_of_find?
    (missing : (ListIndex.ofLists (p.listsOf target.account)).find? target.name = none) :
    ¬ p.HasList target := by
  rw [ListIndex.ofLists_eq distinct] at missing
  intro ⟨l, mem, holds, named⟩
  have other := List.find?_eq_none.mp missing l (List.mem_filter.mpr ⟨mem, holds⟩)
  exact other (beq_iff_eq.mpr named)

theorem Names.unique (h : p.Names target l) (h' : p.Names target l') : l' = l := by
  refine List.inj_on_of_nodup_map distinct ?_ ?_ (h'.name.trans h.name.symm)
  · exact List.mem_filter.mpr ⟨h'.mem, h'.holds⟩
  · exact List.mem_filter.mpr ⟨h.mem, h.holds⟩

theorem Names.not_hasList_deleteList (h : p.Names target l) :
    ¬ (p.perform (.deleteList target.account l.id)).2.HasList target := by
  intro ⟨l', mem, holds, named⟩
  rw [listsOf_deleteList] at mem
  obtain ⟨mem, other⟩ := List.mem_filter.mp mem
  rw [h.unique distinct ⟨mem, holds, named⟩] at other
  exact of_decide_eq_true other rfl

end

end AddressSync.Simulation.Provider
