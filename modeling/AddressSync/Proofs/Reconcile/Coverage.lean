import AddressSync.Proofs.Reconcile.Restraint

/-! A list that is populated never loses an address that it covers. At every instant it holds what it
held at the start, that with the additions, or what was planned; each of these covers what was covered,
and has the items of a family whose address is not known as they were. Nothing is removed before all
additions are made. -/

namespace AddressSync

open Sync Simulation Directory Scene

namespace Reconcile

variable {K : RecordsKey → Prop} {target : ListTarget} {sightings : Sightings} {made : Nat}
  {items held : List ListItem} {address : Address} {family : Family} {l : NamedList} {p p' : Provider}
  {start : Provider} {s s' : Scene} {es : List Moment} {changed done : Bool}

def Covers (items : List ListItem) (address : Address) : Prop :=
  ∃ item ∈ items, item.block.contains address

/-- What a list may hold while the changes planned for it are being made. -/
inductive Underway (sightings : Sightings) (made : Nat) (items : List ListItem) :
    List ListItem → Prop
  | begun : Underway sightings made items items
  | added : Underway sightings made items
      (items ++ Provider.newItems made (sightings.missing items))
  | ended : Underway sightings made items (sightings.applied made items)

theorem covers_applied (unnumbered : Provider.Unnumbered made items)
    (sighted : sightings.of address.family = .seen address) :
    Covers (sightings.applied made items) address := by
  have follows := follows_applied (s := sightings) unnumbered address.family
  generalize result : (sightings.applied made items).filter (·.block.family = address.family) =
    after at follows
  have planned {item : ListItem} (mem : item ∈ after) : item ∈ sightings.applied made items := by
    rw [← result] at mem
    exact (List.mem_filter.mp mem).1
  rw [sighted] at follows
  cases follows with
  | covered _ _ some =>
    obtain ⟨item, mem, covers⟩ := some
    exact ⟨item, planned (List.mem_filter.mpr ⟨mem, covers⟩), covers⟩
  | added _ item _ _ _ block =>
    refine ⟨item, planned (List.mem_singleton_self item), ?_⟩
    rw [block]
    exact address.listedBlock_contains
  | unusable _ other => exact absurd rfl other

theorem Underway.covers (underway : Underway sightings made items held)
    (unnumbered : Provider.Unnumbered made items)
    (sighted : sightings.of address.family = .seen address) (covered : Covers items address) :
    Covers held address := by
  cases underway with
  | begun => exact covered
  | added =>
    obtain ⟨item, mem, covers⟩ := covered
    exact ⟨item, List.mem_append_left _ mem, covers⟩
  | ended => exact covers_applied unnumbered sighted

theorem Underway.kept (underway : Underway sightings made items held)
    (goal : sightings.goal family = .keep) :
    held.filter (·.block.family = family) = items.filter (·.block.family = family) := by
  cases underway with
  | begun => rfl
  | added => rw [List.filter_append, added_eq_nil (missingFor_of_keep goal), List.append_nil]
  | ended => exact applied_of_keep goal

def LeavesOthers (target : ListTarget) (start p : Provider) : Prop :=
  ∀ id, (∀ l, p.named? target = some l → l.id ≠ id) → p.itemsOf id = start.itemsOf id

/-- The changes planned for a list are under way, and no other list is touched. -/
structure Advanced (target : ListTarget) (sightings : Sightings) (made : Nat) (start p : Provider) :
    Prop where
  underway : Underway sightings made (start.contents target) (p.contents target)
  others : LeavesOthers target start p

structure Unchanged (target : ListTarget) (start p : Provider) : Prop where
  contents : p.contents target = start.contents target
  others : LeavesOthers target start p

theorem Unchanged.advanced (unchanged : Unchanged target start p) (sightings : Sightings)
    (made : Nat) : Advanced target sightings made start p := by
  refine ⟨?_, unchanged.others⟩
  rw [unchanged.contents]
  exact .begun

theorem unchanged_self (target : ListTarget) (p : Provider) : Unchanged target p p :=
  ⟨rfl, fun _ _ => rfl⟩

theorem unchanged_createList {description : String} (missing : p.named? target = none) :
    Unchanged target p (p.perform (.createList target.account target.name description)).2 := by
  have named : (p.perform (.createList target.account target.name description)).2.named? target =
      some (p.nextList target.name description) := Provider.named?_createList
  refine ⟨?_, fun id other => ?_⟩
  · rw [Provider.contents_of_named? named, Provider.contents, missing]
    exact Provider.itemsOf_createList.trans (if_pos rfl)
  · exact Provider.itemsOf_createList.trans (if_neg (other _ named).symm)

theorem Obtained.unchanged {reply : Except Failure (NamedList × Bool)}
    (obtained : Obtained K target s es reply s') :
    s.Always (Unchanged target s.provider) es s' := by
  have first := unchanged_self target s.provider
  have made {es : List Moment} {s₁ : Scene} {reply : Except Failure NamedList} {p : Provider}
      {t : Nat} {caches : Caches}
      (reads : s.Reads K (· = s.provider.named? target) es (.ok none) s₁)
      (ends : s₁.provider.Ends (.createList target.account target.name target.description) reply p) :
      s.Always (Unchanged target s.provider)
        (es ++ [.called (.createList target.account target.name target.description) reply
          s₁.provider p]) ⟨t, p, caches⟩ := by
    have missing : s.provider.named? target = none := (reads.true_of_ok none rfl).symm
    have before := reads.quiet.always first
    rw [reads.quiet.provider] at ends
    have after := ends.preserves first (unchanged_createList missing)
    exact before.append ⟨before.last, List.forall_mem_singleton.mpr ⟨before.last, after⟩, after⟩
  cases obtained with
  | unread es e s' reads | found es l s' reads => exact reads.quiet.always first
  | created es l s₁ p t t' reads ends | refused es e s₁ p t reads ends => exact made reads ends

theorem Advanced.of_change {c : Call} {change : c.Reply → List ListItem → List ListItem}
    (named : p.named? target = some l) (others : LeavesOthers target start p)
    (work : p.ChangesItems c l.id change)
    (underway : Underway sightings made (start.contents target) ((p.perform c).2.itemsOf l.id)) :
    (p.perform c).2.named? target = some l ∧
      Advanced target sightings made start (p.perform c).2 := by
  have still : (p.perform c).2.named? target = some l := by
    rw [Provider.named?, Provider.listsOf, work.lists]
    exact named
  refine ⟨still, ?_, fun id other => ?_⟩
  · rwa [Provider.contents_of_named? still]
  · have other := (other l still).symm
    rw [work.elsewhere id other]
    refine others id fun l' named' same => other ?_
    rw [named] at named'
    rw [Option.some.inj named', same]

/-- Of the items that cover an address once the additions are made, one is not to be removed. -/
theorem exists_spared (distinct : (items.map ListItem.id).Nodup)
    (unnumbered : Provider.Unnumbered made items)
    (sighted : sightings.of address.family = .seen address) :
    ∃ item ∈ items ++ Provider.newItems made (sightings.missing items),
      item.block.contains address ∧ item.id ∉ (sightings.excess items).map ListItem.id := by
  obtain ⟨item, mem, covers⟩ := covers_applied unnumbered sighted
  rw [← filter_excess distinct unnumbered] at mem
  obtain ⟨held, stays⟩ := List.mem_filter.mp mem
  refine ⟨item, held, covers, fun gone => ?_⟩
  rw [List.contains_iff_mem.mpr gone] at stays
  cases stays

/-- If items are removed at the moment, they are of the target's list, and for each address that was
seen an item stays that covers it. -/
def SparesCover (target : ListTarget) (sightings : Sightings) : Moment → Prop
  | .called (.deleteItems account id ids) _ before _ =>
    account = target.account ∧ (∃ l, before.named? target = some l ∧ l.id = id) ∧
      ∀ address, sightings.of address.family = .seen address →
        ∃ item ∈ before.contents target, item.block.contains address ∧ item.id ∉ ids
  | _ => True

theorem sparesCover_of_not_removesItems {m : Moment} (other : m.removesItems = false) :
    SparesCover target sightings m := by
  unfold SparesCover
  split
  · cases other
  · trivial

theorem Batches.not_removesItems {additions : Nat} (batches : Batches es additions 0) :
    ∀ m ∈ es, m.removesItems = false := by
  intro m mem
  exact eq_false_of_ne_true (List.countP_eq_zero.mp (Nat.le_zero.mp batches.removals) m mem)

theorem Batches.not_addsItems {removals : Nat} (batches : Batches es 0 removals) :
    ∀ m ∈ es, m.addsItems = false := by
  intro m mem
  exact eq_false_of_ne_true (List.countP_eq_zero.mp (Nat.le_zero.mp batches.additions) m mem)

/-- What can be said of all instants at which a list is populated. -/
structure Safeguarded (target : ListTarget) (sightings : Sightings) (made : Nat) (start : Provider)
    (s : Scene) (es : List Moment) (s' : Scene) : Prop where
  always : s.Always (Advanced target sightings made start) es s'
  spares : ∀ m ∈ es, SparesCover target sightings m
  ordered : (∃ m ∈ es, m.addsItems ∧ m.Fails) → ∀ m ∈ es, ¬ m.removesItems

theorem Safeguarded.of_batches {additions : Nat} (batches : Batches es additions 0)
    (always : s.Always (Advanced target sightings made start) es s') :
    Safeguarded target sightings made start s es s' := by
  refine ⟨always, fun m mem => ?_, fun _ m mem removes => ?_⟩
  · exact sparesCover_of_not_removesItems (batches.not_removesItems m mem)
  · rw [batches.not_removesItems m mem] at removes
    cases removes

theorem Safeguarded.after {s₁ : Scene} {es' : List Moment} (batches : Batches es 0 0)
    (always : s.Always (Unchanged target start) es s₁)
    (rest : Safeguarded target sightings made start s₁ es' s') :
    Safeguarded target sightings made start s (es ++ es') s' := by
  refine ⟨(always.imp fun p unchanged => unchanged.advanced ..).append rest.always, ?_, ?_⟩
  · refine List.forall_mem_append.mpr ⟨fun m mem => ?_, rest.spares⟩
    exact sparesCover_of_not_removesItems (batches.not_removesItems m mem)
  · rintro ⟨m, mem, adds, fails⟩ m' mem' removes
    rcases List.mem_append.mp mem with mem | mem
    · rw [batches.not_addsItems m mem] at adds
      cases adds
    rcases List.mem_append.mp mem' with mem' | mem'
    · rw [batches.not_removesItems m' mem'] at removes
      cases removes
    · exact rest.ordered ⟨m, mem, adds, fails⟩ m' mem' removes

theorem Added.unfailed {blocks : List Block} {id : String}
    (added : Added target id s blocks es true s') : ∀ m ∈ es, ¬ m.Fails := by
  cases added with
  | none => exact fun m mem => absurd mem List.not_mem_nil
  | added _ _ _ _ _ adds =>
    rw [adds.moments]
    exact List.forall_mem_singleton.mpr fun fails => Bool.false_ne_true fails.symm

section

variable (named : s.provider.named? target = some l) (unchanged : Unchanged target start s.provider)

include named unchanged

theorem Added.advanced
    (added : Added target l.id s (sightings.missing (start.contents target)) es done s') :
    s'.provider.named? target = some l ∧
      s.Always (Advanced target sightings s.provider.made start) es s' := by
  have first := unchanged.advanced sightings s.provider.made
  have held : s.provider.itemsOf l.id = start.contents target := by
    rw [← unchanged.contents, Provider.contents_of_named? named]
  have after :
      let p := (s.provider.perform
        (addition target l.id (sightings.missing (start.contents target)))).2
      p.named? target = some l ∧ Advanced target sightings s.provider.made start p := by
    refine Advanced.of_change named unchanged.others Provider.changesItems_create ?_
    rw [Provider.itemsOf_createItems, if_pos rfl, held]
    exact .added
  generalize sightings.missing (start.contents target) = blocks at added after
  cases added with
  | none => exact ⟨named, always_nil first⟩
  | added _ _ _ _ _ adds | refused _ _ _ _ _ adds =>
    obtain ⟨still, last⟩ := adds.ends.preserves
      (P := fun p => p.named? target = some l ∧ Advanced target sightings s.provider.made start p)
      ⟨named, first⟩ after
    exact ⟨still, adds.always first last⟩

theorem Exchanged.safeguarded {result : Outcome × Bool}
    (apart : s.provider.ItemsApart)
    (exchanged : Exchanged target l.id (sightings.missing (start.contents target))
      (sightings.excess (start.contents target)) changed s es result s') :
    Safeguarded target sightings s.provider.made start s es s' := by
  have held : s.provider.itemsOf l.id = start.contents target := by
    rw [← unchanged.contents, Provider.contents_of_named? named]
  have distinct := apart.distinct l.id
  have unnumbered := apart.unnumbered l.id
  rw [held] at distinct unnumbered
  have removed {es es' : List Moment} {s₁ s' : Scene} {reply : Except Failure Unit}
      (added : Added target l.id s (sightings.missing (start.contents target)) es true s₁)
      (removes : RemovesItems target l.id (sightings.excess (start.contents target)) s₁ es' reply s') :
      Safeguarded target sightings s.provider.made start s (es ++ .stopAsked false :: es') s' := by
    obtain ⟨still, before⟩ := added.advanced named unchanged
    have full := added.applied.1
    rw [held] at full
    have last := removes.ends.preserves before.last
      (Advanced.of_change still before.last.others Provider.changesItems_delete (by
        rw [Provider.itemsOf_deleteItems, if_pos rfl, full, filter_excess distinct unnumbered]
        exact .ended)).2
    -- By then all additions are made, and what is planned to go spares a cover of each address.
    have spares : SparesCover target sightings (.called
        (removal target l.id (sightings.excess (start.contents target))) reply s₁.provider
          s'.provider) := by
      refine ⟨rfl, ⟨l, still, rfl⟩, fun address sighted => ?_⟩
      rw [Provider.contents_of_named? still, full]
      exact exists_spared distinct unnumbered sighted
    refine ⟨before.append ?_, ?_, ?_⟩
    · exact (quiet_stopAsked false).always before.last |>.append (removes.always before.last last)
    · rw [removes.moments]
      refine List.forall_mem_append.mpr ⟨fun m mem => ?_, ?_⟩
      · exact sparesCover_of_not_removesItems (added.batches.not_removesItems m mem)
      · exact List.forall_mem_cons.mpr ⟨trivial, List.forall_mem_singleton.mpr spares⟩
    · rintro ⟨m, mem, adds, fails⟩
      rw [removes.moments] at mem
      rcases List.mem_append.mp mem with mem | mem
      · exact absurd fails (added.unfailed m mem)
      · rcases List.mem_cons.mp mem with rfl | mem
        · cases adds
        · rw [List.mem_singleton.mp mem] at adds
          cases adds
  cases exchanged with
  | refused es s' added | added es s' added =>
    exact .of_batches added.batches (added.advanced named unchanged).2
  | stopped es s' added =>
    have before := (added.advanced named unchanged).2
    refine .of_batches (added.batches.append (batches_asked true)) (before.append ?_)
    exact (quiet_stopAsked true).always before.last
  | removed es es' s₁ s' added some removes => exact removed added removes
  | unremoved es es' e s₁ s' added some removes => exact removed added removes

end

theorem Populated.safeguarded {report : Report} (apart : s.provider.ItemsApart)
    (populated : Populated K target sightings s es report s') :
    ∃ made, Provider.Unnumbered made (s.provider.contents target) ∧
      Safeguarded target sightings made s.provider s es s' := by
  have contents : Provider.Unnumbered s.provider.made (s.provider.contents target) := by
    unfold Provider.contents
    split
    · exact apart.unnumbered _
    · exact fun _ mem => absurd mem List.not_mem_nil
  have asked (answer : Bool) : s.Always (Unchanged target s.provider) [.stopAsked answer] s :=
    (quiet_stopAsked answer).always (unchanged_self target s.provider)
  have only {es : List Moment} {s' : Scene} (batches : Batches es 0 0)
      (always : s.Always (Unchanged target s.provider) es s') :
      ∃ made, Provider.Unnumbered made (s.provider.contents target) ∧
        Safeguarded target sightings made s.provider s es s' := by
    refine ⟨s.provider.made, contents, ?_⟩
    rw [← List.append_nil es]
    have idle : Batches [] 0 0 := ⟨Nat.le_refl 0, Nat.le_refl 0⟩
    exact .after batches always (.of_batches idle (always_nil (always.last.advanced ..)))
  cases populated with
  | stopped => exact only (batches_asked true) (asked true)
  | unobtained es e s' obtained =>
    exact only ((batches_asked false).append (Obtained.batches obtained))
      ((asked false).append (Obtained.unchanged obtained))
  | unlisted es es' l created e s₁ s' obtained reads
  | current es es' l created s₁ s' obtained reads =>
    have before := Obtained.unchanged obtained
    refine only ((batches_asked false).append ((Obtained.batches obtained).append
      (Quiet.batches reads.quiet))) ((asked false).append (before.append ?_))
    exact reads.quiet.always before.last
  | exchanged es es' es'' l created s₁ s₂ s' outcome stopped obtained reads some exchanged =>
    have before := Obtained.unchanged obtained
    have read := reads.quiet.always before.last
    have kept : s₁.provider.ItemsApart := obtained.preserves apart fun p apart => apart.perform _
    obtain ⟨named, held⟩ := obtained.named
    rw [← reads.quiet.provider] at kept named
    rw [held] at exchanged
    have unnumbered := kept.unnumbered l.id
    rw [reads.quiet.provider, held, ← reads.quiet.provider] at unnumbered
    refine ⟨s₂.provider.made, unnumbered, ?_⟩
    rw [← List.append_assoc es, ← List.cons_append]
    exact .after ((batches_asked false).append ((Obtained.batches obtained).append
      (Quiet.batches reads.quiet))) ((asked false).append (before.append read))
      (exchanged.safeguarded named read.last kept)

theorem goal_of_unseen (managed : sightings.of family ≠ .unmanaged)
    (unseen : ∀ address, sightings.of family = .seen address → address.family ≠ family) :
    sightings.goal family = .keep := by
  cases sighted : sightings.of family with
  | unmanaged => exact absurd sighted managed
  | unknown => exact goal_of_unknown sighted
  | seen address => exact goal_of_unusable sighted (unseen address sighted)

/-- Of a run that populates a list, however its calls end and whenever it is stopped: an address that
was seen and is covered at its start is covered at every instant; items are removed only from the list
itself, and only when each address that was seen is covered by an item that is not removed; the items of
a managed family without an address of its own, and those of all other lists, stay the same at every
instant; and after additions that failed nothing is removed. -/
theorem populate_keeps_coverage (h : s.Coherent) (apart : s.provider.ItemsApart) {report : Report}
    (run : Sync.Runs (populate target sightings) s es report s') :
    (∀ address, sightings.of address.family = .seen address →
      (∃ item ∈ s.provider.contents target, item.block.contains address) →
        s.Always (fun p => ∃ item ∈ p.contents target, item.block.contains address) es s') ∧
    (∀ account id ids reply before after,
      .called (.deleteItems account id ids) reply before after ∈ es →
        account = target.account ∧ (∃ l, before.named? target = some l ∧ l.id = id) ∧
          ∀ address, sightings.of address.family = .seen address →
            ∃ item ∈ before.contents target, item.block.contains address ∧ item.id ∉ ids) ∧
    (∀ family, sightings.of family ≠ .unmanaged →
      (∀ address, sightings.of family = .seen address → address.family ≠ family) →
        s.Always (fun p => (p.contents target).filter (·.block.family = family) =
          (s.provider.contents target).filter (·.block.family = family)) es s') ∧
    s.Always (fun p => ∀ id, (∀ l, p.named? target = some l → l.id ≠ id) →
      p.itemsOf id = s.provider.itemsOf id) es s' ∧
    ((∃ m ∈ es, m.addsItems ∧ m.Fails) → ∀ m ∈ es, ¬ m.removesItems) := by
  obtain ⟨made, unnumbered, always, spares, ordered⟩ :=
    (ensures_populate h target sightings es report s' run).safeguarded apart
  refine ⟨fun address sighted covered => ?_, ?_, fun family managed unseen => ?_, ?_, ordered⟩
  · exact always.imp fun p advanced => advanced.underway.covers unnumbered sighted covered
  · exact fun account id ids reply before after mem => spares _ mem
  · exact always.imp fun p advanced => advanced.underway.kept (goal_of_unseen managed unseen)
  · exact always.imp fun p advanced => advanced.others

def relocation : Sightings where
  v4 := .seen (.v4 3)
  v6 := .seen (.v6 1)

def flaky : World := { untended with faults := [⟨.deleteItems, none, none, .http "timeout", true⟩] }

theorem populate_keeps_coverage_flaky : ∃ es s',
    Sync.Runs (populate stock relocation) flaky.scene es ⟨.list "acct/hosts", .failed, false⟩ s' ∧
      flaky.scene.Always (fun p => ∃ item ∈ p.contents stock, item.block.contains (.v6 1)) es s' ∧
        (flaky.provider.contents stock).map ListItem.id = ["item-2", "item-3", "item-4"] ∧
          (s'.provider.contents stock).map ListItem.id = ["item-4", "item-5"] := by
  have undisturbed : flaky.Undisturbed := rfl
  have apart : flaky.scene.provider.ItemsApart := (Provider.itemsApart_empty.perform _).perform _
  have failed : (flaky.run (populate stock relocation)).1 =
      ⟨.list "acct/hosts", .failed, false⟩ := by decide
  have run := World.runs_trace (populate stock relocation) undisturbed
  rw [failed] at run
  obtain ⟨always, _⟩ := populate_keeps_coverage Scene.coherentOn_empty apart run
  exact ⟨_, _, run, always (.v6 1) rfl (by decide), by decide, by decide⟩

end Reconcile

end AddressSync
