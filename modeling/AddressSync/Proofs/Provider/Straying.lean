import AddressSync.Proofs.Provider.Items
import AddressSync.Proofs.Provider.Twins

/-! A provider of which only the records of one name changed. Two that were alike but for that name
still are, once the numbers that are to come go together anew. -/

theorem List.Forall₂.imp_of_mem {α β : Type} {R S : α → β → Prop} {xs : List α} {ys : List β}
    (h : List.Forall₂ R xs ys) (weaken : ∀ x ∈ xs, ∀ y ∈ ys, R x y → S x y) :
    List.Forall₂ S xs ys := by
  induction h with
  | nil => exact .nil
  | cons first _ ih =>
    refine .cons (weaken _ List.mem_cons_self _ List.mem_cons_self first) (ih ?_)
    exact fun x mem y mem' => weaken x (List.mem_cons_of_mem _ mem) y (List.mem_cons_of_mem _ mem')

namespace AddressSync.Simulation

open List (Forall₂)

def ToCome (kind : String) (made : Nat) (id : String) : Prop :=
  ∃ n, made < n ∧ id = kind ++ toString n

theorem ToCome.earlier {kind id : String} {made before : Nat} (h : ToCome kind made id)
    (le : before ≤ made) : ToCome kind before id := by
  obtain ⟨n, later, same⟩ := h
  exact ⟨n, Nat.lt_of_le_of_lt le later, same⟩

namespace Provider

variable {name id zone : String} {p q r : Provider} {domain : Domain} {family : Family}
  {address : Address} {attributes : Attributes}

/-- Only records of the name changed, and those that came got numbers. -/
structure Strays (name : String) (p q : Provider) : Prop where
  zones : q.zones = p.zones
  besides : q.besides name = p.besides name
  lists : q.lists = p.lists
  items : q.items = p.items
  made : p.made ≤ q.made
  ids : ∀ id ∈ q.idsOf name, id ∈ p.idsOf name ∨ ToCome "rec-" p.made id ∧ ¬ ToCome "rec-" q.made id

theorem strays_self (name : String) (p : Provider) : p.Strays name p :=
  ⟨rfl, rfl, rfl, rfl, Nat.le_refl _, fun _ mem => .inl mem⟩

theorem Strays.trans (first : p.Strays name q) (rest : q.Strays name r) : p.Strays name r where
  zones := rest.zones.trans first.zones
  besides := rest.besides.trans first.besides
  lists := rest.lists.trans first.lists
  items := rest.items.trans first.items
  made := Nat.le_trans first.made rest.made
  ids id mem := by
    rcases rest.ids id mem with mem | ⟨new, used⟩
    · refine (first.ids id mem).imp_right fun ⟨new, used⟩ => ⟨new, fun later => used ?_⟩
      exact later.earlier rest.made
    · exact .inr ⟨new.earlier first.made, used⟩

theorem strays_createRecord (own : domain.print = name) :
    p.Strays name (p.perform (.createRecord zone domain family address attributes)).2 where
  zones := rfl
  besides := by simp [perform, besides, own]
  lists := rfl
  items := rfl
  made := Nat.le_succ _
  ids id mem := by
    simp only [perform, idsOf, List.filter_append, List.map_append, List.mem_append] at mem
    refine mem.imp_right fun new => ?_
    rw [List.filter_cons_of_pos (by simp [own])] at new
    have same : id = s!"rec-{p.made + 1}" := List.mem_singleton.mp new
    refine ⟨⟨p.made + 1, Nat.lt_succ_self _, same⟩, ?_⟩
    rintro ⟨n, later, same'⟩
    have equal : p.made + 1 = n := number_inj (same.symm.trans same')
    exact Nat.ne_of_lt later equal

theorem besides_readdressFirst {rs rs' : List PlacedRecord}
    (absent : id ∉ (rs.filter (·.name ≠ name)).map (·.record.id))
    (found : readdressFirst id address rs = some rs') :
    rs'.filter (·.name ≠ name) = rs.filter (·.name ≠ name) := by
  induction rs generalizing rs' with
  | nil => cases found
  | cons r rest ih =>
    rw [readdressFirst] at found
    by_cases own : r.name = name
    · split at found
      · cases found
        simp [own]
      · obtain ⟨rest', inner, rfl⟩ := Option.map_eq_some_iff.mp found
        have absent : id ∉ (rest.filter (·.name ≠ name)).map (·.record.id) := by
          simpa [own] using absent
        simpa [own] using ih absent inner
    · simp only [ne_eq, own, not_false_eq_true, decide_true, List.filter_cons_of_pos, List.map_cons,
        List.mem_cons, not_or] at absent
      rw [if_neg (Ne.symm absent.1)] at found
      obtain ⟨rest', inner, rfl⟩ := Option.map_eq_some_iff.mp found
      simpa [own] using ih absent.2 inner

theorem strays_updateRecord (absent : id ∉ (p.besides name).map (·.record.id)) :
    p.Strays name (p.perform (.updateRecord zone domain family id address)).2 := by
  rw [perform]
  cases found : readdressFirst id address p.records with
  | none => exact p.strays_self name
  | some records =>
    refine ⟨rfl, besides_readdressFirst absent found, rfl, rfl, Nat.le_refl _, fun id mem => .inl ?_⟩
    rwa [idsOf, Twins.ids_readdressFirst found] at mem

theorem strays_deleteRecord (absent : id ∉ (p.besides name).map (·.record.id)) :
    p.Strays name (p.perform (.deleteRecord zone id)).2 := by
  rw [perform]
  split
  · refine ⟨rfl, ?_, rfl, rfl, Nat.le_refl _, fun id' mem => .inl ?_⟩
    · rw [besides, List.filter_comm]
      refine List.filter_eq_self.mpr fun r mem => decide_eq_true fun same => absent ?_
      exact List.mem_map.mpr ⟨r, mem, same⟩
    · exact List.map_subset _ (List.filter_subset _ (List.filter_subset_self _)) mem
  · exact p.strays_self name

theorem Numbered.not_toCome_record (h : p.Numbered) {r : PlacedRecord} (mem : r ∈ p.records) :
    ¬ ToCome "rec-" p.made r.record.id := by
  rintro ⟨n, later, same⟩
  exact (h.unused n later).records r mem same

theorem Numbered.not_toCome_list (h : p.Numbered) {l : PlacedList} (mem : l ∈ p.lists) :
    ¬ ToCome "list-" p.made l.list.id := by
  rintro ⟨n, later, same⟩
  exact (h.unused n later).lists l mem same

theorem Numbered.items_toCome (h : p.Numbered) (new : ToCome "list-" p.made id) :
    p.itemsOf id = [] := by
  obtain ⟨n, later, rfl⟩ := new
  exact (h.unused n later).items

theorem ItemsApart.not_toCome (h : p.ItemsApart) {item : ListItem} (mem : item ∈ p.itemsOf id) :
    ¬ ToCome "item-" p.made item.id := by
  rintro ⟨n, later, same⟩
  exact h.unnumbered id item mem n later same

/-- The identifiers of the name were there before, or were given since; none is still to be given. -/
theorem Strays.known (strays : p.Strays name q) (h : p.Numbered) (mem : id ∈ q.idsOf name) :
    (id ∈ p.idsOf name ∨ ToCome "rec-" p.made id) ∧ ¬ ToCome "rec-" q.made id := by
  rcases strays.ids id mem with before | ⟨new, used⟩
  · refine ⟨.inl before, fun later => ?_⟩
    obtain ⟨r, held, rfl⟩ := List.mem_map.mp before
    exact h.not_toCome_record (List.mem_filter.mp held).1 (later.earlier strays.made)
  · exact ⟨.inr new, used⟩

end Provider

/-- What went together still does, but for the numbers that were to come; these do anew. -/
def renewed (kind : String) (made made' now now' : Nat) (R : String → String → Prop)
    (id id' : String) : Prop :=
  R id id' ∧ ¬ ToCome kind made id ∧ ¬ ToCome kind made' id' ∨
    ∃ n, 0 < n ∧ id = kind ++ toString (now + n) ∧ id' = kind ++ toString (now' + n)

theorem biUnique_renewed {kind : String} {made made' now now' : Nat} {R : String → String → Prop}
    (h : Relator.BiUnique R) (le : made ≤ now) (le' : made' ≤ now') :
    Relator.BiUnique (renewed kind made made' now now' R) := by
  -- What goes together from before has no number to come, so that it never meets what does anew.
  constructor
  · rintro x y z (⟨related, old, old'⟩ | ⟨n, some, rfl, same⟩)
      (⟨related', _, old''⟩ | ⟨n', some', rfl, same'⟩)
    · exact h.1 related related'
    · exact absurd ⟨_, by omega, same'⟩ old'
    · exact absurd ⟨_, by omega, same⟩ old''
    · have equal : now' + n = now' + n' := Provider.number_inj (same.symm.trans same')
      rw [Nat.add_left_cancel equal]
  · rintro x y z (⟨related, old, old'⟩ | ⟨n, some, same, rfl⟩)
      (⟨related', old'', _⟩ | ⟨n', some', same', rfl⟩)
    · exact h.2 related related'
    · exact absurd ⟨_, by omega, same'⟩ old
    · exact absurd ⟨_, by omega, same⟩ old''
    · have equal : now + n = now + n' := Provider.number_inj (same.symm.trans same')
      rw [Nat.add_left_cancel equal]

namespace Twins

variable {T : Twins} {name : String} {made made' now now' : Nat} {p p' q q' : Provider}

def renew (T : Twins) (made made' now now' : Nat) : Twins where
  records := renewed "rec-" made made' now now' T.records
  lists := renewed "list-" made made' now now' T.lists
  items := renewed "item-" made made' now now' T.items

theorem Proper.renew (h : T.Proper) (le : made ≤ now) (le' : made' ≤ now') :
    (T.renew made made' now now').Proper :=
  ⟨biUnique_renewed h.records le le', biUnique_renewed h.lists le le', biUnique_renewed h.items le le'⟩

theorem numbers_renew : (T.renew made made' now now').Numbers now now' :=
  ⟨fun n some => .inr ⟨n, some, rfl, rfl⟩, fun n some => .inr ⟨n, some, rfl, rfl⟩,
    fun n some => .inr ⟨n, some, rfl, rfl⟩⟩

theorem SameRecord.renew {r r' : Record} (h : T.SameRecord r r') (old : ¬ ToCome "rec-" made r.id)
    (old' : ¬ ToCome "rec-" made' r'.id) : (T.renew made made' now now').SameRecord r r' :=
  ⟨.inl ⟨h.id, old, old'⟩, h.address, h.attributes⟩

theorem SameList.renew {l l' : NamedList} (h : T.SameList l l') (old : ¬ ToCome "list-" made l.id)
    (old' : ¬ ToCome "list-" made' l'.id) : (T.renew made made' now now').SameList l l' :=
  ⟨.inl ⟨h.id, old, old'⟩, h.name, h.description, h.kind⟩

theorem SameItem.renew {i i' : ListItem} (h : T.SameItem i i') (old : ¬ ToCome "item-" made i.id)
    (old' : ¬ ToCome "item-" made' i'.id) : (T.renew made made' now now').SameItem i i' :=
  ⟨.inl ⟨h.id, old, old'⟩, h.block⟩

section

variable (numbered : p.Numbered) (numbered' : p'.Numbered)

include numbered numbered'

theorem records_renew {zone : String} {family : Family} {records records' : List Record}
    (h : Forall₂ T.SameRecord records records') (of : String)
    (listed : records ⊆ p.recordsOf zone of family) (listed' : records' ⊆ p'.recordsOf zone of family) :
    Forall₂ (T.renew p.made p'.made now now').SameRecord records records' :=
  h.imp_of_mem fun _ mem _ mem' same => same.renew
    (numbered.not_toCome_record (Provider.mem_recordsOf.mp (listed mem)).1)
    (numbered'.not_toCome_record (Provider.mem_recordsOf.mp (listed' mem')).1)

theorem lists_renew {account : String} {lists lists' : List NamedList}
    (h : Forall₂ T.SameList lists lists') (listed : lists ⊆ p.listsOf account)
    (listed' : lists' ⊆ p'.listsOf account) :
    Forall₂ (T.renew p.made p'.made now now').SameList lists lists' :=
  h.imp_of_mem fun _ mem _ mem' same => same.renew
    (numbered.not_toCome_list (Provider.mem_listsOf.mp (listed mem)))
    (numbered'.not_toCome_list (Provider.mem_listsOf.mp (listed' mem')))

omit numbered numbered' in
theorem items_renew (apart : p.ItemsApart) (apart' : p'.ItemsApart) {id id' : String}
    (h : Forall₂ T.SameItem (p.itemsOf id) (p'.itemsOf id')) :
    Forall₂ (T.renew p.made p'.made now now').SameItem (p.itemsOf id) (p'.itemsOf id') :=
  h.imp_of_mem fun _ mem _ mem' same => same.renew (apart.not_toCome mem) (apart'.not_toCome mem')

theorem Alike.renew (h : T.Alike name p p') (apart : p.ItemsApart) (apart' : p'.ItemsApart)
    (strays : p.Strays name q) (strays' : p'.Strays name q') :
    (T.renew p.made p'.made q.made q'.made).Alike name q q' where
  zones := by
    rw [strays.zones, strays'.zones]
    exact h.zones
  records := by
    rw [strays.besides, strays'.besides]
    refine h.records.imp_of_mem fun r mem r' mem' same =>
      ⟨same.zone, same.name, same.record.renew ?_ ?_⟩
    · exact numbered.not_toCome_record (List.mem_filter.mp mem).1
    · exact numbered'.not_toCome_record (List.mem_filter.mp mem').1
  lonely := by
    intro id mem id' related
    obtain ⟨known, used⟩ := strays.known numbered mem
    rcases related with ⟨related, old, _⟩ | ⟨n, some, rfl, _⟩
    · exact known.elim (fun before => h.lonely id before id' related) old
    · exact used ⟨_, by omega, rfl⟩
  lonely' := by
    intro id' mem id related
    obtain ⟨known, used⟩ := strays'.known numbered' mem
    rcases related with ⟨related, _, old⟩ | ⟨n, some, _, rfl⟩
    · exact known.elim (fun before => h.lonely' id' before id related) old
    · exact used ⟨_, by omega, rfl⟩
  lists := by
    rw [strays.lists, strays'.lists]
    refine h.lists.imp_of_mem fun l mem l' mem' same => ⟨same.account, same.list.renew ?_ ?_⟩
    · exact numbered.not_toCome_list mem
    · exact numbered'.not_toCome_list mem'
  items := by
    intro id id' related
    have held (p q : Provider) (strays : p.Strays name q) (id : String) :
        q.itemsOf id = p.itemsOf id := by
      rw [Provider.itemsOf, Provider.itemsOf, strays.items]
    rw [held p q strays, held p' q' strays']
    rcases related with ⟨related, _, _⟩ | ⟨n, some, same, same'⟩
    · exact items_renew apart apart' (h.items id id' related)
    · have more := strays.made
      have more' := strays'.made
      rw [numbered.items_toCome ⟨_, by omega, same⟩, numbered'.items_toCome ⟨_, by omega, same'⟩]
      exact .nil
  numbers := numbers_renew

end

end Twins

end AddressSync.Simulation
