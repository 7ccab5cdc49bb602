import AddressSync.Proofs.Provider.Records

/-! The lists of an account and the items of a list, and what each call makes of them. Items are
kept by the identifier of their list, whatever account asks. -/

namespace AddressSync

namespace Simulation.Provider

variable {p : Provider} {account id list : String} {change : List ListItem → List ListItem}

/-- All lists of an account, those that hold no addresses included. -/
def listsOf (p : Provider) (account : String) : List NamedList :=
  (p.lists.filter (·.account = account)).map PlacedList.list

def named? (p : Provider) (target : ListTarget) : Option NamedList :=
  (ListIndex.ofLists (p.listsOf target.account)).find? target.name

def contents (p : Provider) (target : ListTarget) : List ListItem :=
  match p.named? target with
  | some l => p.itemsOf l.id
  | none => []

theorem contents_of_named? {target : ListTarget} {l : NamedList} (named : p.named? target = some l) :
    p.contents target = p.itemsOf l.id := by
  rw [contents, named]

theorem mem_listsOf {l : NamedList} : l ∈ p.listsOf account ↔ ⟨account, l⟩ ∈ p.lists := by
  simp only [listsOf, List.mem_map, List.mem_filter, decide_eq_true_eq]
  constructor
  · rintro ⟨⟨a, l⟩, ⟨mem, rfl⟩, rfl⟩
    exact mem
  · intro mem
    exact ⟨_, ⟨mem, rfl⟩, rfl⟩

theorem lookup_changed {items : List (String × List ListItem)} :
    (items.map fun (id, items) => (id, if id == list then change items else items)).lookup id =
      (items.lookup id).map fun held => if id = list then change held else held := by
  induction items with
  | nil => rfl
  | cons entry items ih =>
    obtain ⟨key, held⟩ := entry
    rw [List.map_cons, List.lookup_cons, List.lookup_cons, ih]
    by_cases same : id = key
    · subst same
      simp only [BEq.rfl, beq_iff_eq, Option.map_some]
    · simp only [beq_eq_false_iff_ne.mpr same]

theorem isSome_lookup (items : List (String × List ListItem)) :
    (items.lookup list).isSome = items.any (·.1 == list) := by
  rw [Bool.eq_iff_iff, List.lookup_isSome_iff, List.any_eq_true]
  exact exists_congr fun entry => and_congr_right' (by rw [BEq.comm])

theorem itemsOf_changeItems :
    (p.changeItems list change).itemsOf id =
      if id = list then change (p.itemsOf list) else p.itemsOf id := by
  unfold changeItems
  rw [← isSome_lookup]
  split
  · next found =>
    obtain ⟨items, held⟩ := Option.isSome_iff_exists.mp found
    rw [itemsOf, lookup_changed]
    by_cases same : id = list
    · subst same
      simp [itemsOf, held]
    · simp [same, itemsOf]
  · next missing =>
    have none : p.items.lookup list = none := Option.not_isSome_iff_eq_none.mp missing
    rw [itemsOf, List.lookup_append, List.lookup_cons, List.lookup_nil]
    by_cases same : id = list
    · subst same
      simp [itemsOf, none]
    · simp [same, itemsOf, beq_eq_false_iff_ne.mpr same]

theorem changeItems_frame (p : Provider) (list : String) (change : List ListItem → List ListItem) :
    (p.changeItems list change).zones = p.zones ∧ (p.changeItems list change).records = p.records ∧
      (p.changeItems list change).lists = p.lists ∧ (p.changeItems list change).made = p.made := by
  unfold changeItems
  split <;> exact ⟨rfl, rfl, rfl, rfl⟩

theorem itemsOf_deleteItems {ids : List String} :
    (p.perform (.deleteItems account list ids)).2.itemsOf id =
      if id = list then (p.itemsOf list).filter fun item => !ids.contains item.id
      else p.itemsOf id := by
  rw [perform]
  split
  · exact itemsOf_changeItems
  · next missing =>
    have none : p.items.lookup list = none := by
      rw [← Option.not_isSome_iff_eq_none, isSome_lookup]
      simpa using missing
    by_cases same : id = list
    · subst same
      simp [itemsOf, none]
    · rw [if_neg same]

theorem lookup_filter_ne (items : List (String × List ListItem)) :
    (items.filter (·.1 ≠ list)).lookup id = if id = list then none else items.lookup id := by
  induction items with
  | nil => simp
  | cons entry items ih =>
    obtain ⟨key, held⟩ := entry
    by_cases here : key = list
    · subst here
      rw [List.filter_cons_of_neg (by simp), ih, List.lookup_cons]
      by_cases same : id = key
      · rw [if_pos same, if_pos same]
      · rw [if_neg same, if_neg same, beq_eq_false_iff_ne.mpr same]
    · rw [List.filter_cons_of_pos (by simpa using here), List.lookup_cons, List.lookup_cons, ih]
      by_cases same : id = key
      · subst same
        simp only [BEq.rfl, if_neg here]
      · rw [beq_eq_false_iff_ne.mpr same]

theorem itemsOf_deleteList :
    (p.perform (.deleteList account list)).2.itemsOf id = if id = list then [] else p.itemsOf id := by
  rw [perform, itemsOf, lookup_filter_ne]
  split <;> rfl

theorem listsOf_deleteList {account' : String} :
    (p.perform (.deleteList account' id)).2.listsOf account =
      (p.listsOf account).filter (·.id ≠ id) := by
  simp only [perform, listsOf, List.filter_map, List.filter_filter]
  congr 1
  refine List.filter_congr fun l _ => ?_
  exact Bool.and_comm ..

def nextList (p : Provider) (name description : String) : NamedList :=
  ⟨s!"list-{p.made + 1}", name, description, "ip"⟩

theorem listsOf_createList {account' name description : String} :
    (p.perform (.createList account' name description)).2.listsOf account =
      p.listsOf account ++ if account' = account then [p.nextList name description] else [] := by
  simp only [perform, listsOf, (changeItems_frame ..).2.2.1, List.filter_append, List.map_append]
  congr 1
  by_cases here : account' = account <;> simp [here, nextList]

theorem itemsOf_createList {name description : String} :
    (p.perform (.createList account name description)).2.itemsOf id =
      if id = (p.nextList name description).id then [] else p.itemsOf id :=
  itemsOf_changeItems

theorem itemsOf_createItems {blocks : List Block} {comment : String} :
    (p.perform (.createItems account list blocks comment)).2.itemsOf id =
      if id = list then p.itemsOf list ++ newItems p.made blocks else p.itemsOf id :=
  itemsOf_changeItems

theorem itemsOf_replaceItems {blocks : List Block} :
    (p.perform (.replaceItems account list blocks)).2.itemsOf id =
      if id = list then newItems p.made blocks else p.itemsOf id :=
  itemsOf_changeItems

end Simulation.Provider

namespace ListIndex

variable {lists : List NamedList} {l : NamedList} {id : String}

def NamesDistinct (lists : List NamedList) : Prop :=
  ((lists.filter NamedList.holdsAddresses).map NamedList.name).Nodup

theorem ofLists_append (holds : l.holdsAddresses) :
    ofLists (lists ++ [l]) = (ofLists lists).insert l := by
  simp only [ofLists, List.filter_append, List.filter_singleton, holds, cond_true,
    List.foldl_append, List.foldl_cons, List.foldl_nil]

theorem foldl_insert {before : List NamedList}
    (distinct : ((before ++ lists).map NamedList.name).Nodup) :
    lists.foldl insert ⟨before⟩ = ⟨before ++ lists⟩ := by
  induction lists generalizing before with
  | nil => rw [List.append_nil, List.foldl_nil]
  | cons l lists ih =>
    have kept : before.filter (·.name ≠ l.name) = before := by
      refine List.filter_eq_self.mpr fun l' mem => decide_eq_true fun same => ?_
      rw [List.map_append, List.nodup_append] at distinct
      exact distinct.2.2 _ (List.mem_map_of_mem mem) _ (List.mem_map_of_mem List.mem_cons_self) same
    rw [List.append_cons] at distinct
    rw [List.foldl_cons, insert, kept, ih distinct, List.append_assoc, List.singleton_append]

theorem mem_foldl_insert {x : ListIndex} (mem : l ∈ (lists.foldl insert x).lists) :
    l ∈ x.lists ∨ l ∈ lists := by
  induction lists generalizing x with
  | nil => exact .inl mem
  | cons l' lists ih =>
    rcases ih mem with mem | mem
    · rcases List.mem_append.mp mem with mem | mem
      · exact .inl (List.mem_filter.mp mem).1
      · exact .inr (List.mem_cons.mpr (.inl (List.mem_singleton.mp mem)))
    · exact .inr (List.mem_cons_of_mem l' mem)

theorem mem_ofLists (mem : l ∈ (ofLists lists).lists) : l ∈ lists ∧ l.holdsAddresses := by
  rcases mem_foldl_insert mem with mem | mem
  · cases mem
  · exact List.mem_filter.mp mem

theorem find?_insert (x : ListIndex) (l : NamedList) : (x.insert l).find? l.name = some l := by
  have absent : (x.lists.filter (·.name ≠ l.name)).find? (·.name == l.name) = none := by
    refine List.find?_eq_none.mpr fun l' mem => ?_
    simpa using (List.mem_filter.mp mem).2
  rw [find?, insert, List.find?_append, absent, List.find?_singleton, beq_self_eq_true]
  rfl

theorem find?_insert_of_ne (x : ListIndex) {name : String} (other : name ≠ l.name) :
    (x.insert l).find? name = x.find? name := by
  have kept (l' : NamedList) :
      (decide (l'.name ≠ l.name) = true ∧ (l'.name == name) = true ↔ (l'.name == name) = true) := by
    simp only [decide_eq_true_eq, beq_iff_eq, and_iff_right_iff_imp]
    rintro rfl
    exact other
  rw [find?, insert, List.find?_append, List.find?_filter, List.find?_singleton,
    beq_eq_false_iff_ne.mpr other.symm]
  simp only [kept, Bool.decide_eq_true]
  exact Option.or_none

theorem find?_foldl_insert (x : ListIndex) (lists : List NamedList) (name : String) :
    (lists.foldl insert x).find? name = (lists.reverse.find? (·.name == name)).or (x.find? name) := by
  induction lists generalizing x with
  | nil => rfl
  | cons l lists ih =>
    rw [List.foldl_cons, ih, List.reverse_cons, List.find?_append, Option.or_assoc]
    by_cases same : l.name = name
    · subst same
      rw [find?_insert, List.find?_singleton, beq_self_eq_true]
      rfl
    · rw [find?_insert_of_ne x (Ne.symm same), List.find?_singleton, beq_eq_false_iff_ne.mpr same]
      rfl

/-- Of the lists of addresses with one name, the index has the last one. -/
theorem find?_ofLists (lists : List NamedList) (name : String) :
    (ofLists lists).find? name =
      (lists.filter NamedList.holdsAddresses).reverse.find? (·.name == name) := by
  rw [ofLists, find?_foldl_insert]
  exact Option.or_none

theorem find?_ofLists_of_sole (mem : l ∈ lists) (holds : l.holdsAddresses)
    (sole : ∀ l' ∈ lists, l'.holdsAddresses → l'.name = l.name → l' = l) :
    (ofLists lists).find? l.name = some l := by
  rw [find?_ofLists]
  cases found : (lists.filter NamedList.holdsAddresses).reverse.find? (·.name == l.name) with
  | none =>
    have mem : l ∈ (lists.filter NamedList.holdsAddresses).reverse :=
      List.mem_reverse.mpr (List.mem_filter.mpr ⟨mem, holds⟩)
    exact absurd (beq_self_eq_true l.name) (List.find?_eq_none.mp found l mem)
  | some l' =>
    obtain ⟨among, holds'⟩ := List.mem_filter.mp (List.mem_reverse.mp (List.mem_of_find?_eq_some found))
    have named : l'.name = l.name := by simpa using List.find?_some found
    rw [sole l' among holds' named]

/-- An index that lacks a list at most is made complete by it. -/
theorem find?_insert_of_known {x held : ListIndex} {name : String}
    (known : held.find? l.name = some l)
    (others : name ≠ l.name → x.find? name = held.find? name) :
    (x.insert l).find? name = held.find? name := by
  by_cases same : name = l.name
  · rw [same, find?_insert, known]
  · rw [find?_insert_of_ne x same, others same]

theorem ofLists_eq (distinct : NamesDistinct lists) :
    ofLists lists = ⟨lists.filter NamedList.holdsAddresses⟩ :=
  foldl_insert distinct

theorem NamesDistinct.filter {test : NamedList → Bool} (distinct : NamesDistinct lists) :
    NamesDistinct (lists.filter test) := by
  unfold NamesDistinct
  rw [List.filter_filter, ← List.filter_filter, List.filter_comm]
  exact distinct.sublist (List.Sublist.map _ List.filter_sublist)

theorem ofLists_dropId (distinct : NamesDistinct lists) :
    ofLists (lists.filter (·.id ≠ id)) = (ofLists lists).dropId id := by
  rw [ofLists_eq distinct, ofLists_eq distinct.filter, dropId]
  exact congrArg mk (List.filter_comm ..)

theorem NamesDistinct.append (distinct : NamesDistinct lists)
    (new : (ofLists lists).find? l.name = none) : NamesDistinct (lists ++ [l]) := by
  rw [ofLists_eq distinct] at new
  by_cases holds : l.holdsAddresses
  · rw [NamesDistinct, List.filter_append, List.filter_singleton, holds, cond_true, List.map_append]
    refine List.nodup_append.mpr ⟨distinct, List.nodup_singleton _, ?_⟩
    rintro name mem name' only rfl
    obtain ⟨l', mem, named⟩ := List.mem_map.mp mem
    have other := List.find?_eq_none.mp new l' mem
    rw [List.map_singleton, List.mem_singleton] at only
    exact other (beq_iff_eq.mpr (named.trans only))
  · rw [NamesDistinct, List.filter_append, List.filter_singleton, eq_false_of_ne_true holds,
      cond_false, List.append_nil]
    exact distinct

end ListIndex

theorem Simulation.Provider.named?_createList {p : Provider} {target : ListTarget}
    {description : String} :
    (p.perform (.createList target.account target.name description)).2.named? target =
      some (p.nextList target.name description) := by
  rw [named?, listsOf_createList, if_pos rfl, ListIndex.ofLists_append rfl]
  exact ListIndex.find?_insert _ (p.nextList target.name description)

theorem Simulation.Provider.find?_createList_of_ne {p : Provider} {account name name' description : String}
    (other : name' ≠ name) :
    (ListIndex.ofLists
      ((p.perform (.createList account name description)).2.listsOf account)).find? name' =
        (ListIndex.ofLists (p.listsOf account)).find? name' := by
  rw [listsOf_createList, if_pos rfl, ListIndex.ofLists_append rfl]
  exact ListIndex.find?_insert_of_ne _ other

end AddressSync
