import AddressSync.Proofs.Provider.Sound
import AddressSync.Proofs.Surroundings.Abreast
import Mathlib.Data.List.Forall2

/-! Two providers that hold the like of each other, but for the records of one name. As they number
what they make on their own, what is the same goes by two identifiers, of which is known which of them
go together. The same call to both, under the identifiers of each, leaves them so. -/

theorem List.Forall₂.find? {α β : Type} {R : α → β → Prop} {f : α → Bool} {g : β → Bool}
    {xs : List α} {ys : List β} (h : List.Forall₂ R xs ys) (same : ∀ x y, R x y → f x = g y) :
    Option.Rel R (xs.find? f) (ys.find? g) := by
  induction h with
  | nil => exact .none
  | @cons x y xs ys first _ ih =>
    rw [List.find?_cons, List.find?_cons, same x y first]
    cases g y with
    | true => exact .some first
    | false => exact ih

theorem List.Forall₂.map_eq {α β γ : Type} {R : α → β → Prop} {f : α → γ} {g : β → γ}
    {xs : List α} {ys : List β} (h : List.Forall₂ R xs ys) (same : ∀ x y, R x y → f x = g y) :
    xs.map f = ys.map g := by
  induction h with
  | nil => rfl
  | cons first _ ih => rw [List.map_cons, List.map_cons, same _ _ first, ih]

namespace AddressSync.Simulation

open List (Forall₂)

/-- Which identifiers of records, of lists and of items go together. -/
structure Twins where
  records : String → String → Prop
  lists : String → String → Prop
  items : String → String → Prop

namespace Twins

structure Proper (T : Twins) : Prop where
  records : Relator.BiUnique T.records
  lists : Relator.BiUnique T.lists
  items : Relator.BiUnique T.items

variable (T : Twins)

structure SameRecord (r r' : Record) : Prop where
  id : T.records r.id r'.id
  address : r.address = r'.address
  attributes : r.attributes = r'.attributes

structure SamePlaced (r r' : PlacedRecord) : Prop where
  zone : r.zone = r'.zone
  name : r.name = r'.name
  record : T.SameRecord r.record r'.record

structure SameList (l l' : NamedList) : Prop where
  id : T.lists l.id l'.id
  name : l.name = l'.name
  description : l.description = l'.description
  kind : l.kind = l'.kind

structure SameStored (l l' : PlacedList) : Prop where
  account : l.account = l'.account
  list : T.SameList l.list l'.list

structure SameItem (i i' : ListItem) : Prop where
  id : T.items i.id i'.id
  block : i.block = i'.block

/-- The numbers to come go together in their order. -/
structure Numbers (here there : Nat) : Prop where
  records : ∀ n, 0 < n → T.records s!"rec-{here + n}" s!"rec-{there + n}"
  lists : ∀ n, 0 < n → T.lists s!"list-{here + n}" s!"list-{there + n}"
  items : ∀ n, 0 < n → T.items s!"item-{here + n}" s!"item-{there + n}"

end Twins

namespace Provider

def besides (p : Provider) (name : String) : List PlacedRecord := p.records.filter (·.name ≠ name)

def nextRecord (p : Provider) (address : Address) (attributes : Attributes) : Record :=
  ⟨s!"rec-{p.made + 1}", address, attributes⟩

def idsOf (p : Provider) (name : String) : List String :=
  (p.records.filter (·.name = name)).map (·.record.id)

end Provider

namespace Twins

/-- But for the records of the name, the providers hold the same. -/
structure Alike (T : Twins) (name : String) (p p' : Provider) : Prop where
  zones : p.zones = p'.zones
  records : Forall₂ T.SamePlaced (p.besides name) (p'.besides name)
  lonely : ∀ x ∈ p.idsOf name, ∀ x', ¬ T.records x x'
  lonely' : ∀ x' ∈ p'.idsOf name, ∀ x, ¬ T.records x x'
  lists : Forall₂ T.SameStored p.lists p'.lists
  items : ∀ x x', T.lists x x' → Forall₂ T.SameItem (p.itemsOf x) (p'.itemsOf x')
  numbers : T.Numbers p.made p'.made

variable {T : Twins} {name zone account id id' : String} {p p' q q' : Provider} {domain : Domain}
  {family : Family} {address : Address} {made made' n : Nat}

theorem Numbers.later (h : T.Numbers made made') (k : Nat) : T.Numbers (made + k) (made' + k) := by
  refine ⟨fun n some => ?_, fun n some => ?_, fun n some => ?_⟩ <;> rw [Nat.add_assoc, Nat.add_assoc]
  · exact h.records (k + n) (by omega)
  · exact h.lists (k + n) (by omega)
  · exact h.items (k + n) (by omega)

theorem Numbers.newItems (h : T.Numbers made made') (blocks : List Block) :
    Forall₂ T.SameItem (Provider.newItems made blocks) (Provider.newItems made' blocks) := by
  induction blocks generalizing made made' with
  | nil => exact .nil
  | cons block rest ih => exact .cons ⟨h.items 1 Nat.one_pos, rfl⟩ (ih (h.later 1))

theorem readdressFirst_filter {rs : List PlacedRecord}
    (absent : id ∉ (rs.filter (·.name = name)).map (·.record.id)) :
    (Provider.readdressFirst id address rs).map (·.filter (·.name ≠ name)) =
      Provider.readdressFirst id address (rs.filter (·.name ≠ name)) := by
  induction rs with
  | nil => rfl
  | cons r rest ih =>
    by_cases own : r.name = name
    · simp only [own, decide_true, List.filter_cons_of_pos, List.map_cons, List.mem_cons, not_or]
        at absent
      rw [List.filter_cons_of_neg (by simp [own]), Provider.readdressFirst, if_neg (Ne.symm absent.1),
        ← ih absent.2, Option.map_map]
      congr 1
      funext rs
      simp [own]
    · rw [List.filter_cons_of_neg (by simp [own])] at absent
      rw [List.filter_cons_of_pos (by simp [own]), Provider.readdressFirst, Provider.readdressFirst]
      split
      · simp [own]
      · rw [← ih absent, Option.map_map, Option.map_map]
        congr 1
        funext rs
        simp [own]

theorem ids_readdressFirst {rs rs' : List PlacedRecord}
    (found : Provider.readdressFirst id address rs = some rs') :
    (rs'.filter (·.name = name)).map (·.record.id) =
      (rs.filter (·.name = name)).map (·.record.id) := by
  induction rs generalizing rs' with
  | nil => cases found
  | cons r rest ih =>
    rw [Provider.readdressFirst] at found
    split at found
    · cases found
      by_cases own : r.name = name <;> simp [own]
    · obtain ⟨rest', inner, rfl⟩ := Option.map_eq_some_iff.mp found
      by_cases own : r.name = name <;> simp [own, ih inner]

theorem rel_readdressFirst {rs rs' : List PlacedRecord} (proper : T.Proper)
    (ids : T.records id id') (same : Forall₂ T.SamePlaced rs rs') :
    Option.Rel (Forall₂ T.SamePlaced) (Provider.readdressFirst id address rs)
      (Provider.readdressFirst id' address rs') := by
  induction same with
  | nil => exact .none
  | @cons r r' rest rest' first _ ih =>
    have here : r.record.id = id ↔ r'.record.id = id' :=
      Relator.rel_eq proper.records first.record.id ids
    rw [Provider.readdressFirst, Provider.readdressFirst]
    by_cases found : r.record.id = id
    · rw [if_pos found, if_pos (here.mp found)]
      exact .some (.cons ⟨first.zone, first.name, first.record.id, rfl, first.record.attributes⟩ ‹_›)
    · rw [if_neg found, if_neg (mt here.mpr found)]
      exact ih.map fun _ _ rest => .cons first rest

theorem Alike.recordsOf (h : T.Alike name p p') (other : id ≠ name) :
    Forall₂ T.SameRecord (p.recordsOf zone id family) (p'.recordsOf zone id family) := by
  have inside (p : Provider) : p.recordsOf zone id family = ((p.besides name).filter fun r =>
      r.zone = zone && r.name = id && r.record.address.family = family).map PlacedRecord.record := by
    rw [Provider.recordsOf, Provider.besides, List.filter_filter]
    congr 1
    refine List.filter_congr fun r _ => ?_
    by_cases here : r.name = id <;> simp [here, other]
  rw [inside p, inside p']
  refine List.rel_map (fun _ _ same => same.record) (List.rel_filter ?_ h.records)
  intro r r' same
  simp only [same.zone, same.name, same.record.address]

theorem Alike.listsOf (h : T.Alike name p p') (account : String) :
    Forall₂ T.SameList (p.listsOf account) (p'.listsOf account) := by
  refine List.rel_map (fun _ _ same => same.list) (List.rel_filter ?_ h.lists)
  intro l l' same
  simp only [same.account]

theorem filter_records (proper : T.Proper) (ids : T.records id id') {records records' : List Record}
    (same : Forall₂ T.SameRecord records records') :
    Forall₂ T.SameRecord (records.filter (·.id ≠ id)) (records'.filter (·.id ≠ id')) := by
  refine List.rel_filter (fun r r' same => ?_) same
  simp only [ne_eq, decide_not, Bool.not_eq_true', decide_eq_false_iff_not]
  exact not_congr (Relator.rel_eq proper.records same.id ids)

theorem Alike.of_records (h : T.Alike name p p') (k : Nat)
    (frame : q = { p with records := q.records, made := p.made + k })
    (frame' : q' = { p' with records := q'.records, made := p'.made + k })
    (records : Forall₂ T.SamePlaced (q.besides name) (q'.besides name))
    (ids : q.idsOf name ⊆ p.idsOf name) (ids' : q'.idsOf name ⊆ p'.idsOf name) :
    T.Alike name q q' := by
  refine ⟨?_, records, fun x mem => h.lonely x (ids mem), fun x mem => h.lonely' x (ids' mem), ?_, ?_,
    ?_⟩ <;> rw [frame, frame']
  · exact h.zones
  · exact h.lists
  · exact h.items
  · exact h.numbers.later k

theorem Alike.createRecord (h : T.Alike name p p') (other : domain.print ≠ name)
    {attributes : Attributes} :
    T.SameRecord (p.nextRecord address attributes) (p'.nextRecord address attributes) ∧
      T.Alike name (p.perform (.createRecord zone domain family address attributes)).2
        (p'.perform (.createRecord zone domain family address attributes)).2 := by
  have same : T.SameRecord (p.nextRecord address attributes) (p'.nextRecord address attributes) :=
    ⟨h.numbers.records 1 Nat.one_pos, rfl, rfl⟩
  have ids (p : Provider) :
      (p.perform (.createRecord zone domain family address attributes)).2.idsOf name =
        p.idsOf name := by
    simp [Provider.perform, Provider.idsOf, List.filter_append, other]
  refine ⟨same, h.of_records 1 rfl rfl ?_ (fun _ mem => ids p ▸ mem) fun _ mem => ids p' ▸ mem⟩
  simp only [Provider.perform, Provider.besides, List.filter_append]
  refine List.rel_append h.records ?_
  rw [List.filter_cons_of_pos (by simp [other]), List.filter_cons_of_pos (by simp [other])]
  exact .cons ⟨rfl, rfl, same⟩ .nil

theorem Alike.updateRecord (h : T.Alike name p p') (proper : T.Proper) (ids : T.records id id') :
    Echo (fun _ _ => True) (p.perform (.updateRecord zone domain family id address)).1
        (p'.perform (.updateRecord zone domain family id' address)).1 ∧
      T.Alike name (p.perform (.updateRecord zone domain family id address)).2
        (p'.perform (.updateRecord zone domain family id' address)).2 := by
  have kept {p : Provider} {id : String} {rs : List PlacedRecord}
      (found : Provider.readdressFirst id address p.records = some rs) :
      ({ p with records := rs } : Provider).idsOf name ⊆ p.idsOf name := by
    rw [Provider.idsOf, ids_readdressFirst found]
    exact List.Subset.refl _
  have same : Option.Rel _ (Provider.readdressFirst id address _)
      (Provider.readdressFirst id' address _) := rel_readdressFirst proper ids h.records
  unfold Provider.besides at same
  rw [← readdressFirst_filter fun own => h.lonely id own id' ids,
    ← readdressFirst_filter fun own => h.lonely' id' own id ids] at same
  rw [Provider.perform, Provider.perform]
  cases found : Provider.readdressFirst id address p.records <;>
    cases found' : Provider.readdressFirst id' address p'.records <;> rw [found, found'] at same
  · exact ⟨.error _ _, h⟩
  · cases same
  · cases same
  · cases same with
    | some same =>
      exact ⟨.ok trivial, h.of_records 0 rfl rfl same (kept found) (kept found')⟩

theorem Alike.deleteRecord (h : T.Alike name p p') (proper : T.Proper) (ids : T.records id id') :
    Echo (fun _ _ => True) (p.perform (.deleteRecord zone id)).1
        (p'.perform (.deleteRecord zone id')).1 ∧
      T.Alike name (p.perform (.deleteRecord zone id)).2 (p'.perform (.deleteRecord zone id')).2 := by
  -- As none of the records of the name is deleted, those besides it decide whether there is one.
  have held {p : Provider} {id : String} (absent : id ∉ p.idsOf name) :
      p.records.any (·.record.id = id) ↔ id ∈ (p.besides name).map (·.record.id) := by
    simp only [List.any_eq_true, decide_eq_true_eq, Provider.besides, List.mem_map, List.mem_filter]
    constructor
    · rintro ⟨r, mem, rfl⟩
      refine ⟨r, ⟨mem, fun own => absent ?_⟩, rfl⟩
      exact List.mem_map.mpr ⟨r, List.mem_filter.mpr ⟨mem, decide_eq_true own⟩, rfl⟩
    · rintro ⟨r, ⟨mem, _⟩, rfl⟩
      exact ⟨r, mem, rfl⟩
  have besides (p : Provider) (id : String) :
      ({ p with records := p.records.filter (·.record.id ≠ id) } : Provider).besides name =
        (p.besides name).filter (·.record.id ≠ id) :=
    List.filter_comm ..
  have fewer (p : Provider) (id : String) :
      ({ p with records := p.records.filter (·.record.id ≠ id) } : Provider).idsOf name ⊆
        p.idsOf name :=
    List.map_subset _ (List.filter_subset _ (List.filter_subset_self _))
  have there := held fun own => h.lonely id own id' ids
  have there' := held fun own => h.lonely' id' own id ids
  have both := List.rel_mem proper.records ids (List.rel_map (fun _ _ same => same.record.id) h.records)
  rw [Provider.perform, Provider.perform]
  by_cases found : p.records.any (·.record.id = id)
  · rw [if_pos found, if_pos (there'.mpr (both.mp (there.mp found)))]
    refine ⟨.ok trivial, h.of_records 0 rfl rfl ?_ (fewer p id) (fewer p' id')⟩
    rw [besides, besides]
    refine List.rel_filter (fun r r' same => ?_) h.records
    simp only [ne_eq, decide_not, Bool.not_eq_true', decide_eq_false_iff_not]
    exact not_congr (Relator.rel_eq proper.records same.record.id ids)
  · rw [if_neg found, if_neg fun found' => found (there.mpr (both.mpr (there'.mp found')))]
    exact ⟨.error _ _, h⟩

theorem Alike.of_items (h : T.Alike name p p') (proper : T.Proper) (k : Nat)
    (frame : q.zones = p.zones ∧ q.records = p.records ∧ q.made = p.made + k)
    (frame' : q'.zones = p'.zones ∧ q'.records = p'.records ∧ q'.made = p'.made + k)
    (lists : Forall₂ T.SameStored q.lists q'.lists) (ids : T.lists id id')
    {items items' : List ListItem} (here : Forall₂ T.SameItem items items')
    (changed : ∀ x, q.itemsOf x = if x = id then items else p.itemsOf x)
    (changed' : ∀ x, q'.itemsOf x = if x = id' then items' else p'.itemsOf x) :
    T.Alike name q q' := by
  obtain ⟨zones, records, made⟩ := frame
  obtain ⟨zones', records', made'⟩ := frame'
  refine ⟨?_, ?_, ?_, ?_, lists, fun x x' same => ?_, ?_⟩
  · rw [zones, zones']
    exact h.zones
  · rw [Provider.besides, Provider.besides, records, records']
    exact h.records
  · rw [Provider.idsOf, records]
    exact h.lonely
  · rw [Provider.idsOf, records']
    exact h.lonely'
  · have both : x = id ↔ x' = id' := Relator.rel_eq proper.lists same ids
    rw [changed, changed']
    by_cases there : x = id
    · rwa [if_pos there, if_pos (both.mp there)]
    · rw [if_neg there, if_neg (mt both.mpr there)]
      exact h.items x x' same
  · rw [made, made']
    exact h.numbers.later k

theorem Alike.nextList (h : T.Alike name p p') (called description : String) :
    T.SameList (p.nextList called description) (p'.nextList called description) :=
  ⟨h.numbers.lists 1 Nat.one_pos, rfl, rfl, rfl⟩

theorem Alike.createList (h : T.Alike name p p') (proper : T.Proper) {called description : String} :
    T.Alike name (p.perform (.createList account called description)).2
      (p'.perform (.createList account called description)).2 := by
  have same := h.nextList called description
  have frame (p : Provider) :
      let q := (p.perform (.createList account called description)).2
      q.zones = p.zones ∧ q.records = p.records ∧ q.made = p.made + 1 := by
    obtain ⟨zones, records, _, made⟩ := Provider.changeItems_frame
      { p with lists := p.lists ++ [⟨account, p.nextList called description⟩], made := p.made + 1 }
      (p.nextList called description).id fun _ => []
    exact ⟨zones, records, made⟩
  refine h.of_items proper 1 (frame p) (frame p') ?_ same.id .nil
    (fun _ => Provider.itemsOf_createList) fun _ => Provider.itemsOf_createList
  simp only [Provider.perform, (Provider.changeItems_frame ..).2.2.1]
  exact List.rel_append h.lists (.cons ⟨rfl, same⟩ .nil)

variable {blocks : List Block} {comment : String} {ids ids' : List String}

theorem Alike.createItems (h : T.Alike name p p') (proper : T.Proper) (same : T.lists id id') :
    T.Alike name (p.perform (.createItems account id blocks comment)).2
      (p'.perform (.createItems account id' blocks comment)).2 := by
  have frame (p : Provider) (id : String) :
      let q := (p.perform (.createItems account id blocks comment)).2
      q.zones = p.zones ∧ q.records = p.records ∧ q.made = p.made + blocks.length := by
    obtain ⟨zones, records, _, made⟩ :=
      Provider.changeItems_frame p id (· ++ Provider.newItems p.made blocks)
    exact ⟨zones, records, congrArg (· + blocks.length) made⟩
  refine h.of_items proper blocks.length (frame p id) (frame p' id') ?_ same
    (List.rel_append (h.items id id' same) (h.numbers.newItems blocks))
    (fun _ => Provider.itemsOf_createItems) fun _ => Provider.itemsOf_createItems
  simp only [Provider.perform, (Provider.changeItems_frame ..).2.2.1]
  exact h.lists

theorem blocks_eq {items items' : List ListItem} (same : Forall₂ T.SameItem items items') :
    items.map ListItem.block = items'.map ListItem.block :=
  same.map_eq fun _ _ same => same.block

theorem filter_items (proper : T.Proper) (gone : Forall₂ T.items ids ids')
    {items items' : List ListItem} (same : Forall₂ T.SameItem items items') :
    Forall₂ T.SameItem (items.filter fun item => !ids.contains item.id)
      (items'.filter fun item => !ids'.contains item.id) := by
  refine List.rel_filter (fun item item' same => ?_) same
  simp only [Bool.not_eq_true', ← Bool.not_eq_true, List.contains_iff_mem]
  exact not_congr (List.rel_mem proper.items same.id gone)

theorem Alike.deleteItems (h : T.Alike name p p') (proper : T.Proper) (same : T.lists id id')
    (gone : Forall₂ T.items ids ids') :
    T.Alike name (p.perform (.deleteItems account id ids)).2
      (p'.perform (.deleteItems account id' ids')).2 := by
  have frame (p : Provider) (id : String) (ids : List String) :
      let q := (p.perform (.deleteItems account id ids)).2
      (q.zones = p.zones ∧ q.records = p.records ∧ q.made = p.made + 0) ∧ q.lists = p.lists := by
    rw [Provider.perform]
    split
    · obtain ⟨zones, records, lists, made⟩ := Provider.changeItems_frame p id _
      exact ⟨⟨zones, records, made⟩, lists⟩
    · exact ⟨⟨rfl, rfl, rfl⟩, rfl⟩
  obtain ⟨frame₁, lists⟩ := frame p id ids
  obtain ⟨frame₂, lists'⟩ := frame p' id' ids'
  refine h.of_items proper 0 frame₁ frame₂ ?_ same (filter_items proper gone (h.items id id' same))
    (fun _ => Provider.itemsOf_deleteItems) fun _ => Provider.itemsOf_deleteItems
  rw [lists, lists']
  exact h.lists

end Twins

end AddressSync.Simulation
