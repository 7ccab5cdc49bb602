import AddressSync.Proofs.Provider.Lists

/-! What may be counted on at a provider that numbers what it makes: identifiers of records and
names of lists are distinct, and a number that was not used yet is found nowhere. -/

namespace AddressSync.Simulation.Provider

variable {p p' : Provider} {c : Call} {m n : Nat}

structure Unused (p : Provider) (n : Nat) : Prop where
  records : ∀ r ∈ p.records, r.record.id ≠ s!"rec-{n}"
  lists : ∀ l ∈ p.lists, l.list.id ≠ s!"list-{n}"
  items : p.itemsOf s!"list-{n}" = []

structure Numbered (p : Provider) : Prop where
  records_distinct : p.RecordsDistinct
  unused : ∀ n, p.made < n → p.Unused n

structure Sound (p : Provider) : Prop extends Numbered p where
  names_distinct : ∀ account, ListIndex.NamesDistinct (p.listsOf account)

theorem sound_of_zones (zones : List Zone) (made : Nat) : ({ zones, made } : Provider).Sound where
  records_distinct := List.nodup_nil
  names_distinct _ := List.nodup_nil
  unused _ _ := ⟨fun _ mem => absurd mem List.not_mem_nil, fun _ mem => absurd mem List.not_mem_nil, rfl⟩

def Places (p : Provider) : Call → Prop
  | .createItems account id .. | .replaceItems account id _ => ∃ l ∈ p.listsOf account, l.id = id
  | _ => True

/-- The call does not make what is there, and puts items only where a list is. -/
def Admits (p : Provider) : Call → Prop
  | .createList account name _ => (ListIndex.ofLists (p.listsOf account)).find? name = none
  | .createItems account id .. | .replaceItems account id _ => ∃ l ∈ p.listsOf account, l.id = id
  | _ => True

theorem Admits.places (h : p.Admits c) : p.Places c := by
  cases c with
  | createItems | replaceItems => exact h
  | _ => trivial

theorem number_inj {kind : String} (h : kind ++ toString m = kind ++ toString n) : m = n := by
  have digits := congrArg String.toList h
  simp only [String.toList_append, List.append_cancel_left_eq] at digits
  have same : Nat.toDigits 10 m = Nat.toDigits 10 n := by simpa [toString] using digits
  simpa using congrArg (fun d => Nat.ofDigitChars 10 d 0) same

theorem Numbered.createRecord {zone : String} {domain : Domain} {family : Family} {address : Address}
    {attributes : Attributes} (h : p.Numbered) :
    (p.perform (.createRecord zone domain family address attributes)).2.Numbered where
  records_distinct := by
    rw [RecordsDistinct, perform, List.map_append]
    refine List.nodup_append.mpr ⟨h.records_distinct, List.nodup_singleton _, ?_⟩
    rintro id mem id' only rfl
    obtain ⟨r, held, rfl⟩ := List.mem_map.mp mem
    exact (h.unused _ (Nat.lt_succ_self _)).records r held (List.mem_singleton.mp only)
  unused n more := by
    obtain ⟨records, lists, items⟩ := h.unused n (Nat.lt_of_succ_lt more)
    refine ⟨fun r mem same => ?_, lists, items⟩
    rcases List.mem_append.mp mem with mem | only
    · exact records r mem same
    · rw [List.mem_singleton.mp only] at same
      exact Nat.ne_of_lt more (number_inj same)

theorem Numbered.updateRecord {zone id : String} {domain : Domain} {family : Family}
    {address : Address} (h : p.Numbered) :
    (p.perform (.updateRecord zone domain family id address)).2.Numbered := by
  have frame : (p.perform (.updateRecord zone domain family id address)).2 =
      { p with records := (p.perform (.updateRecord zone domain family id address)).2.records } := by
    rw [perform]
    split <;> rfl
  rw [frame, records_updateRecord h.records_distinct]
  refine ⟨?_, fun n more => ?_⟩
  · rw [RecordsDistinct, List.map_map, Function.comp_def]
    simp only [readdress_id]
    exact h.records_distinct
  · obtain ⟨records, lists, items⟩ := h.unused n more
    refine ⟨fun r mem => ?_, lists, items⟩
    obtain ⟨r, held, rfl⟩ := List.mem_map.mp mem
    rw [readdress_id]
    exact records r held

theorem Numbered.deleteRecord {zone id : String} (h : p.Numbered) :
    (p.perform (.deleteRecord zone id)).2.Numbered := by
  rw [perform]
  split
  · refine ⟨h.records_distinct.sublist (List.Sublist.map _ List.filter_sublist), fun n more => ?_⟩
    obtain ⟨records, lists, items⟩ := h.unused n more
    exact ⟨fun r mem => records r (List.mem_filter.mp mem).1, lists, items⟩
  · exact h

theorem Numbered.createList {account name description : String} (h : p.Numbered) :
    (p.perform (.createList account name description)).2.Numbered where
  records_distinct := by
    rw [RecordsDistinct, perform, (changeItems_frame ..).2.1]
    exact h.records_distinct
  unused n more := by
    simp only [perform, (changeItems_frame ..).2.2.2] at more
    obtain ⟨records, lists, items⟩ := h.unused n (Nat.lt_of_succ_lt more)
    refine ⟨?_, fun l mem same => ?_, ?_⟩
    · simp only [perform, (changeItems_frame ..).2.1]
      exact records
    · simp only [perform, (changeItems_frame ..).2.2.1, List.mem_append, List.mem_singleton] at mem
      rcases mem with mem | rfl
      · exact lists l mem same
      · exact Nat.ne_of_lt more (number_inj same)
    · rw [itemsOf_createList, items, ite_self]

theorem Numbered.deleteList {account id : String} (h : p.Numbered) :
    (p.perform (.deleteList account id)).2.Numbered := by
  refine ⟨h.records_distinct, fun n more => ?_⟩
  obtain ⟨records, lists, items⟩ := h.unused n more
  refine ⟨records, fun l mem => lists l (List.mem_filter.mp mem).1, ?_⟩
  rw [itemsOf_deleteList, items, ite_self]

theorem Numbered.changeItems {list : String} {change : List ListItem → List ListItem} {made : Nat}
    (h : p.Numbered) (more : p.made ≤ made)
    (there : change [] = [] ∨ ∃ l ∈ p.lists, l.list.id = list) :
    ({ p.changeItems list change with made } : Provider).Numbered := by
  obtain ⟨_, sameRecords, sameLists, _⟩ := changeItems_frame p list change
  refine ⟨?_, fun n later => ?_⟩
  · simp only [RecordsDistinct, sameRecords]
    exact h.records_distinct
  · obtain ⟨records, lists, items⟩ := h.unused n (Nat.lt_of_le_of_lt more later)
    refine ⟨?_, ?_, ?_⟩
    · rw [sameRecords]
      exact records
    · rw [sameLists]
      exact lists
    · change (p.changeItems list change).itemsOf _ = []
      rw [itemsOf_changeItems]
      split
      · next same =>
        rcases there with kept | ⟨l, mem, rfl⟩
        · rw [← same, items, kept]
        · exact absurd same.symm (lists l mem)
      · exact items

theorem Numbered.perform (h : p.Numbered) (placed : p.Places c) : (p.perform c).2.Numbered := by
  cases c with
  | listZones name | listRecords zone domain family | listLists account | listItems account id =>
    exact h
  | createRecord zone domain family address attributes => exact h.createRecord
  | updateRecord zone domain family id address => exact h.updateRecord
  | deleteRecord zone id => exact h.deleteRecord
  | createList account name description => exact h.createList
  | deleteList account id => exact h.deleteList
  | createItems account id blocks comment =>
    obtain ⟨l, mem, same⟩ := placed
    refine h.changeItems ?_ (.inr ⟨_, mem_listsOf.mp mem, same⟩)
    rw [(changeItems_frame ..).2.2.2]
    exact Nat.le_add_right ..
  | replaceItems account id blocks =>
    obtain ⟨l, mem, same⟩ := placed
    exact h.changeItems (Nat.le_add_right ..) (.inr ⟨_, mem_listsOf.mp mem, same⟩)
  | deleteItems account id ids =>
    rw [Provider.perform]
    split
    · exact h.changeItems (Nat.le_of_eq (changeItems_frame ..).2.2.2.symm) (.inl rfl)
    · exact h

theorem Numbered.ends {reply : Except Failure c.Reply} (h : p.Numbered) (placed : p.Places c)
    (ends : p.Ends c reply p') : p'.Numbered :=
  ends.preserves h (h.perform placed)

/-- No call brings two lists of one name about, if it does not make one whose name is taken. -/
theorem namesDistinct_perform (names : ∀ account, ListIndex.NamesDistinct (p.listsOf account))
    (new : ∀ account name description, c = .createList account name description →
      (ListIndex.ofLists (p.listsOf account)).find? name = none) (account : String) :
    ListIndex.NamesDistinct ((p.perform c).2.listsOf account) := by
  cases c with
  | createList account' name description =>
    rw [listsOf_createList]
    by_cases here : account' = account
    · subst here
      rw [if_pos rfl]
      exact (names account').append (new account' name description rfl)
    · rw [if_neg here, List.append_nil]
      exact names account
  | deleteList account' id =>
    rw [listsOf_deleteList]
    exact (names account).filter
  | createItems | replaceItems =>
    simp only [listsOf, perform, (changeItems_frame ..).2.2.1]
    exact names account
  | updateRecord | deleteRecord =>
    rw [perform]
    split <;> exact names account
  | deleteItems =>
    rw [perform]
    split
    · simp only [listsOf, (changeItems_frame ..).2.2.1]
      exact names account
    · exact names account
  | _ => exact names account

theorem Sound.perform (h : p.Sound) (admitted : p.Admits c) : (p.perform c).2.Sound where
  toNumbered := h.toNumbered.perform admitted.places
  names_distinct := by
    refine namesDistinct_perform h.names_distinct ?_
    rintro account name description rfl
    exact admitted

theorem Sound.ends {reply : Except Failure c.Reply} (h : p.Sound) (admitted : p.Admits c)
    (ends : p.Ends c reply p') : p'.Sound :=
  ends.preserves h (h.perform admitted)

end AddressSync.Simulation.Provider
