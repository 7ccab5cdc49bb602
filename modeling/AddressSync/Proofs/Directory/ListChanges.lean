import AddressSync.Proofs.Directory.Changes

/-! Lists that are created and deleted while the index of their account is cached. -/

namespace AddressSync

open Sync Simulation Directory

namespace Simulation.Provider

variable {p p' : Provider} {account name description id : String} {c : Call}

structure ChangesIndex (p : Provider) (c : Call) (account : String)
    (change : c.Reply → ListIndex → ListIndex) : Prop where
  records : (p.perform c).2.records = p.records
  elsewhere : ∀ other, other ≠ account → (p.perform c).2.listsOf other = p.listsOf other
  here : ∀ x, (p.perform c).1 = .ok x →
    ListIndex.ofLists ((p.perform c).2.listsOf account) =
      change x (ListIndex.ofLists (p.listsOf account))

def ListWithin (p : Provider) (id account : String) : Prop :=
  ∀ l ∈ p.lists, l.list.id = id → l.account = account

theorem changesIndex_create : p.ChangesIndex (.createList account name description) account
    fun list => (·.insert list) where
  records := (changeItems_frame ..).2.1
  elsewhere other ne := by rw [listsOf_createList, if_neg (Ne.symm ne), List.append_nil]
  here list made := by
    cases made
    rw [listsOf_createList, if_pos rfl]
    exact ListIndex.ofLists_append rfl

theorem changesIndex_delete (sound : p.Sound) (within : p.ListWithin id account) :
    p.ChangesIndex (.deleteList account id) account fun _ => (·.dropId id) where
  records := rfl
  elsewhere other ne := by
    rw [listsOf_deleteList]
    refine List.filter_eq_self.mpr fun l mem => decide_eq_true fun same => ne ?_
    exact within _ (mem_listsOf.mp mem) same
  here x _ := by
    rw [listsOf_deleteList]
    exact ListIndex.ofLists_dropId (sound.names_distinct account)

theorem Numbered.itemsOf_ends_create {reply : Except Failure NamedList} (h : p.Numbered)
    (ends : p.Ends (.createList account name description) reply p') :
    p'.itemsOf id = p.itemsOf id := by
  rcases ends.either with rfl | rfl
  · rfl
  · rw [itemsOf_createList]
    split
    · next new =>
      rw [new]
      exact (h.unused _ (Nat.lt_succ_self _)).items.symm
    · rfl

theorem itemsOf_ends_delete {reply : Except Failure Unit} {other : String}
    (ends : p.Ends (.deleteList account id) reply p') (ne : other ≠ id) :
    p'.itemsOf other = p.itemsOf other := by
  rcases ends.either with rfl | rfl
  · rfl
  · rw [itemsOf_deleteList, if_neg ne]

end Simulation.Provider

namespace Scene

variable {K : RecordsKey → Prop} {s s' : Scene} {c : Call} {account : String}

/-- The index is patched or forgotten at some time after the call; what is cached of the items is
left to show. -/
theorem CoherentOn.change_index {change : c.Reply → ListIndex → ListIndex}
    {reply : Except Failure c.Reply} {t : Nat} (h : s.CoherentOn K) (later : s.now ≤ t)
    (later' : t ≤ s'.now) (work : s.provider.ChangesIndex c account change)
    (ends : s.provider.Ends c reply s'.provider)
    (caches : s'.caches.zones = s.caches.zones ∧ s'.caches.owners = s.caches.owners)
    (records : s'.caches.records = s.caches.records)
    (indexes : s'.caches.indexes = match reply with
      | .ok x => s.caches.indexes.modify t account (change x)
      | .error _ => s.caches.indexes.erase account)
    (items : s'.caches.items.Holds s'.now fun id items =>
      ∀ account, (s'.provider.perform (.listItems account id)).1 = .ok items) :
    s'.CoherentOn K := by
  have sameRecords : s'.provider.records = s.provider.records := by
    rcases ends.either with same | same
    · rw [same]
    · rw [same, work.records]
  have elsewhere (other : String) (ne : other ≠ account) :
      s'.provider.listsOf other = s.provider.listsOf other := by
    rcases ends.either with same | same
    · rw [same]
    · rw [same, work.elsewhere other ne]
  have others (other : String) (index : ListIndex) (ne : other ≠ account)
      (said : (s.provider.perform (.listLists other)).1.map ListIndex.ofLists = .ok index) :
      (s'.provider.perform (.listLists other)).1.map ListIndex.ofLists = .ok index := by
    rw [← said]
    exact congrArg (fun lists => Except.ok (ListIndex.ofLists lists)) (elsewhere other ne)
  have before := (h.pass later).indexes
  refine h.move (Nat.le_trans later later') ends.zones caches
    (h.records_of_same (Nat.le_trans later later') sameRecords records) ?_ items
  rw [indexes]
  cases reply with
  | ok x =>
    refine Cache.Holds.later ?_ later'
    refine before.modify (fun e _ ne said => others e.key e.value ne said) fun v said => ?_
    obtain ⟨done, same⟩ := ends.of_ok
    have held := Except.ok.inj said
    rw [← held, same]
    exact congrArg Except.ok (work.here x done)
  | error e =>
    refine Cache.Holds.later ?_ later'
    exact before.erase fun e _ ne said => others e.key e.value ne said

end Scene

namespace Directory

open Scene

variable {K : RecordsKey → Prop} {s s' : Scene} {es : List Moment} {target : ListTarget}
  {reply : Except Failure (NamedList × Bool)} {l : NamedList} {created : Bool}

/-- The ways in which obtaining a list ends. The index is read, and only if it does not have the name
is a list made. -/
inductive Obtained (K : RecordsKey → Prop) (target : ListTarget) (s : Scene) :
    List Moment → Except Failure (NamedList × Bool) → Scene → Prop
  | unread (es : List Moment) (e : Failure) (s' : Scene)
    (reads : s.Reads K (· = s.provider.named? target) es (.error e) s') :
    Obtained K target s es (.error e) s'
  | found (es : List Moment) (l : NamedList) (s' : Scene)
    (reads : s.Reads K (· = s.provider.named? target) es (.ok (some l)) s') :
    Obtained K target s es (.ok (l, false)) s'
  | created (es : List Moment) (l : NamedList) (s₁ : Scene) (p : Provider) (t t' : Nat)
    (reads : s.Reads K (· = s.provider.named? target) es (.ok none) s₁)
    (ends : s₁.provider.Ends (.createList target.account target.name target.description) (.ok l) p)
    (later : s₁.now ≤ t) (later' : t ≤ t') :
    Obtained K target s
      (es ++ [.called (.createList target.account target.name target.description) (.ok l)
        s₁.provider p]) (.ok (l, true))
      ⟨t', p, { s₁.caches with
        indexes := s₁.caches.indexes.modify t target.account (·.insert l)
        items := s₁.caches.items.set t' l.id [] }⟩
  | refused (es : List Moment) (e : Failure) (s₁ : Scene) (p : Provider) (t : Nat)
    (reads : s.Reads K (· = s.provider.named? target) es (.ok none) s₁)
    (ends : s₁.provider.Ends (.createList target.account target.name target.description)
      (.error e) p) (later : s₁.now ≤ t) :
    Obtained K target s
      (es ++ [.called (.createList target.account target.name target.description) (.error e)
        s₁.provider p]) (.error e)
      ⟨t, p, { s₁.caches with indexes := s₁.caches.indexes.erase target.account }⟩

theorem ensures_obtained (h : s.CoherentOn K) (target : ListTarget) :
    Sync.Ensures (obtainList target) s (Obtained K target s) := by
  refine (ensures_findList h target).bind fun es reply s' reads => ?_
  cases reply with
  | error e =>
    refine Program.ensures_pure_iff.mpr ?_
    rw [List.append_nil]
    exact .unread es e s' reads
  | ok found =>
    cases found with
    | some list =>
      refine Silent.ensures_guard (silent_log _ _ _) (Program.ensures_pure_iff.mpr ?_)
      rw [List.append_nil]
      exact .found es list s' reads
    | none =>
      refine ensures_call_iff.mpr fun t reply p later ends => ?_
      cases reply with
      | ok list =>
        refine ensures_revise_iff.mpr fun t₁ later₁ => ensures_revise_iff.mpr fun t₂ later₂ => ?_
        refine Program.ensures_pure_iff.mpr ?_
        exact .created es list s' p t₁ t₂ reads ends (Nat.le_trans later later₁) later₂
      | error e =>
        refine ensures_revise_iff.mpr fun t₁ later₁ => Program.ensures_pure_iff.mpr ?_
        exact .refused es e s' p t₁ reads ends (Nat.le_trans later later₁)

theorem Obtained.coherent (obtained : Obtained K target s es (.ok (l, created)) s') :
    s'.CoherentOn K := by
  cases obtained with
  | found es l s' reads => exact reads.coherent
  | created es l s₁ p t t' reads ends later later' =>
    have after := Nat.le_trans later later'
    refine reads.coherent.change_index later later' Provider.changesIndex_create ends ⟨rfl, rfl⟩ rfl
      rfl ?_
    obtain ⟨made, rfl⟩ := ends.of_ok
    cases made
    refine (reads.coherent.items.later after).replace (fun e _ other said account => ?_)
      fun account => congrArg Except.ok (Provider.itemsOf_createList.trans (if_pos rfl))
    rw [← said account]
    exact congrArg Except.ok (Provider.itemsOf_createList.trans (if_neg other))

theorem Obtained.orderly (h : s.Orderly)
    (obtained : Obtained (fun key => key.domain.IsParsed) target s es reply s') : s'.Orderly := by
  have placed (p : Provider) :
      p.Places (.createList target.account target.name target.description) := trivial
  cases obtained with
  | unread es e s' reads | found es l s' reads => exact h.reads reads
  | created es l s₁ p t t' reads ends later later' =>
    have obtained := Obtained.created es l s₁ p t t' reads ends later later'
    exact ⟨(h.reads reads).numbered.ends (placed _) ends, obtained.coherent⟩
  | refused es e s₁ p t reads ends later =>
    have h := h.reads reads
    refine ⟨h.numbered.ends (placed _) ends, ?_⟩
    refine h.coherent.change_index later (Nat.le_refl t) Provider.changesIndex_create ends
      ⟨rfl, rfl⟩ rfl rfl ?_
    refine (h.coherent.items.later later).mono fun e _ said account => ?_
    rw [← said account]
    exact congrArg Except.ok (h.numbered.itemsOf_ends_create ends)

theorem Obtained.faithful (h : s.Faithful)
    (obtained : Obtained (fun key => key.domain.IsParsed) target s es reply s') : s'.Faithful := by
  have admitted {s₁ : Scene} {es : List Moment} (reads : s.Reads
      (fun key => key.domain.IsParsed) (· = s.provider.named? target) es (.ok none) s₁) :
      s₁.provider.Admits (.createList target.account target.name target.description) := by
    have new := reads.true_of_ok none rfl
    rw [← reads.quiet.provider] at new
    exact new.symm
  refine ⟨?_, (obtained.orderly h.orderly).coherent⟩
  cases obtained with
  | unread es e s' reads | found es l s' reads => exact (h.reads reads).sound
  | created es l s₁ p t t' reads ends | refused es e s₁ p t reads ends =>
    exact (h.reads reads).sound.ends (admitted reads) ends

theorem ensures_obtainList (h : s.Faithful) (target : ListTarget) :
    Sync.Ensures (obtainList target) s fun _ _ s' => s'.Faithful :=
  (ensures_obtained h.coherent target).mono fun _ _ _ obtained => obtained.faithful h

theorem ensures_deleteList (h : s.Faithful) {target : ListTarget} {id : String}
    (within : s.provider.ListWithin id target.account) :
    Sync.Ensures (deleteList target id) s fun _ _ s' => s'.Faithful := by
  have work := Provider.changesIndex_delete h.sound within
  have admitted : s.provider.Admits (.deleteList target.account id) := trivial
  refine ensures_call_iff.mpr fun t reply p later ends => ?_
  have others (t : Nat) (after : s.now ≤ t) : (s.caches.items.erase id).Holds t fun id items =>
      ∀ account, (p.perform (.listItems account id)).1 = .ok items := by
    refine (h.coherent.items.later after).erase fun e _ other said account => ?_
    rw [← said account]
    exact congrArg Except.ok (Provider.itemsOf_ends_delete ends other)
  cases reply with
  | ok x =>
    refine ensures_revise_iff.mpr fun t₁ later₁ => ensures_revise_iff.mpr fun t₂ later₂ => ?_
    refine Program.ensures_pure_iff.mpr ?_
    have after := Nat.le_trans later later₁
    refine ⟨h.sound.ends admitted ends, ?_⟩
    exact h.coherent.change_index after later₂ work ends ⟨rfl, rfl⟩ rfl rfl
      (others t₂ (Nat.le_trans after later₂))
  | error e =>
    refine ensures_revise_iff.mpr fun t₁ later₁ => ensures_revise_iff.mpr fun t₂ later₂ => ?_
    refine Program.ensures_pure_iff.mpr ?_
    have after := Nat.le_trans later later₁
    refine ⟨h.sound.ends admitted ends, ?_⟩
    exact h.coherent.change_index after later₂ work ends ⟨rfl, rfl⟩ rfl rfl
      (others t₂ (Nat.le_trans after later₂))

end Directory

end AddressSync
