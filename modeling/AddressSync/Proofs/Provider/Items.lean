import AddressSync.Proofs.Provider.Sound

/-! The items of lists are told apart by their identifiers, and no call changes that: items that are
made get numbers that were not used before. -/

namespace AddressSync.Simulation.Provider

variable {p p' : Provider} {c : Call} {made n : Nat} {blocks : List Block} {item : ListItem}
  {list : String} {items : List ListItem}

theorem map_block_newItems : (newItems made blocks).map ListItem.block = blocks := by
  induction blocks generalizing made with
  | nil => rfl
  | cons block rest ih => rw [newItems, List.map_cons, ih]

theorem exists_number_of_mem_newItems (mem : item ∈ newItems made blocks) :
    ∃ n, made < n ∧ n ≤ made + blocks.length ∧ item.id = s!"item-{n}" := by
  induction blocks generalizing made with
  | nil => cases mem
  | cons block rest ih =>
    rcases List.mem_cons.mp mem with rfl | mem
    · exact ⟨made + 1, Nat.lt_succ_self made, by simp, rfl⟩
    · obtain ⟨n, after, before, same⟩ := ih mem
      refine ⟨n, Nat.lt_of_succ_lt after, ?_, same⟩
      rw [List.length_cons]
      omega

def Unnumbered (made : Nat) (items : List ListItem) : Prop :=
  ∀ item ∈ items, ∀ n, made < n → item.id ≠ s!"item-{n}"

theorem Unnumbered.later {made' : Nat} (h : Unnumbered made items) (later : made ≤ made') :
    Unnumbered made' items :=
  fun item mem n more => h item mem n (Nat.lt_of_le_of_lt later more)

theorem unnumbered_newItems : Unnumbered (made + blocks.length) (newItems made blocks) := by
  intro item mem n more same
  obtain ⟨n', _, before, same'⟩ := exists_number_of_mem_newItems mem
  rw [same'] at same
  have equal : n' = n := number_inj same
  omega

theorem Unnumbered.id_ne {old : ListItem} (h : Unnumbered made items) (held : old ∈ items)
    (mem : item ∈ newItems made blocks) : old.id ≠ item.id := by
  obtain ⟨n, after, _, same⟩ := exists_number_of_mem_newItems mem
  rw [same]
  exact h old held n after

theorem nodup_newItems : ((newItems made blocks).map ListItem.id).Nodup := by
  induction blocks generalizing made with
  | nil => exact List.nodup_nil
  | cons block rest ih =>
    refine List.nodup_cons.mpr ⟨fun mem => ?_, ih⟩
    obtain ⟨item, mem, same⟩ := List.mem_map.mp mem
    obtain ⟨n, after, _, same'⟩ := exists_number_of_mem_newItems mem
    have equal : n = made + 1 := number_inj (same'.symm.trans same)
    omega

structure ItemsApart (p : Provider) : Prop where
  distinct : ∀ list, ((p.itemsOf list).map ListItem.id).Nodup
  unnumbered : ∀ list, Unnumbered p.made (p.itemsOf list)

theorem itemsApart_empty : ({} : Provider).ItemsApart where
  distinct _ := List.nodup_nil
  unnumbered _ _ mem := absurd mem List.not_mem_nil

theorem ItemsApart.of_same (h : p.ItemsApart) (items : ∀ list, p'.itemsOf list = p.itemsOf list)
    (more : p.made ≤ p'.made) : p'.ItemsApart := by
  refine ⟨fun list => ?_, fun list => ?_⟩ <;> rw [items list]
  · exact h.distinct list
  · exact (h.unnumbered list).later more

theorem ItemsApart.of_change (change : List ListItem → List ListItem) (h : p.ItemsApart)
    (more : p.made ≤ p'.made)
    (items : ∀ id, p'.itemsOf id = if id = list then change (p.itemsOf list) else p.itemsOf id)
    (distinct : ((change (p.itemsOf list)).map ListItem.id).Nodup)
    (unnumbered : Unnumbered p'.made (change (p.itemsOf list))) : p'.ItemsApart := by
  refine ⟨fun id => ?_, fun id => ?_⟩ <;> rw [items id] <;> split
  · exact distinct
  · exact h.distinct id
  · exact unnumbered
  · exact (h.unnumbered id).later more

theorem made_le_perform (p : Provider) (c : Call) : p.made ≤ (p.perform c).2.made := by
  cases c with
  | createRecord => exact Nat.le_succ p.made
  | createList =>
    rw [perform, (changeItems_frame ..).2.2.2]
    exact Nat.le_succ p.made
  | createItems =>
    simp only [perform, (changeItems_frame ..).2.2.2]
    exact Nat.le_add_right ..
  | replaceItems => exact Nat.le_add_right ..
  | updateRecord =>
    rw [perform]
    split <;> exact Nat.le_refl _
  | deleteRecord =>
    rw [perform]
    split <;> exact Nat.le_refl _
  | deleteItems =>
    rw [perform]
    split
    · exact Nat.le_of_eq (changeItems_frame ..).2.2.2.symm
    · exact Nat.le_refl _
  | _ => exact Nat.le_refl _

theorem ItemsApart.perform (h : p.ItemsApart) (c : Call) : (p.perform c).2.ItemsApart := by
  have more := p.made_le_perform c
  cases c with
  | listZones | listRecords | listLists | listItems => exact h
  | createRecord => exact h.of_same (fun _ => rfl) more
  | updateRecord | deleteRecord =>
    refine h.of_same (fun list => ?_) more
    rw [Provider.perform]
    split <;> rfl
  | createList account name description =>
    exact h.of_change (fun _ => []) more (fun _ => itemsOf_createList) List.nodup_nil
      fun _ mem => absurd mem List.not_mem_nil
  | deleteList account list =>
    exact h.of_change (fun _ => []) more (fun _ => itemsOf_deleteList) List.nodup_nil
      fun _ mem => absurd mem List.not_mem_nil
  | createItems account list blocks comment =>
    have made : (p.perform (.createItems account list blocks comment)).2.made =
        p.made + blocks.length :=
      congrArg (· + blocks.length) (changeItems_frame ..).2.2.2
    refine h.of_change (· ++ newItems p.made blocks) more
      (fun _ => itemsOf_createItems) ?_ fun item mem => ?_
    · rw [List.map_append]
      refine List.nodup_append.mpr ⟨h.distinct list, nodup_newItems, ?_⟩
      rintro id mem id' mem' rfl
      obtain ⟨old, held, rfl⟩ := List.mem_map.mp mem
      obtain ⟨new, added, same⟩ := List.mem_map.mp mem'
      exact (h.unnumbered list).id_ne held added same.symm
    · rw [made] at more ⊢
      rcases List.mem_append.mp mem with mem | mem
      · exact (h.unnumbered list).later more item mem
      · exact unnumbered_newItems item mem
  | deleteItems account list ids =>
    refine h.of_change (·.filter fun item => !ids.contains item.id) more
      (fun _ => itemsOf_deleteItems) ?_ fun item mem => ?_
    · exact (h.distinct list).sublist (List.Sublist.map _ List.filter_sublist)
    · exact (h.unnumbered list).later more item (List.mem_filter.mp mem).1
  | replaceItems account list blocks =>
    exact h.of_change (fun _ => newItems p.made blocks) more
      (fun _ => itemsOf_replaceItems) nodup_newItems unnumbered_newItems

end AddressSync.Simulation.Provider
