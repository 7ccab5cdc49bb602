import AddressSync.Proofs.Provider.Shrinking
import AddressSync.Proofs.Reconcile.Plan
import AddressSync.Proofs.Reconcile.Population
import AddressSync.Proofs.Surroundings.Simulated

/-! What the outcome of populating a list says of the provider: work that counts as done, and was not
stopped, leaves the list with the items that follow from what was seen. When it is done again, nothing
is left to do. -/

namespace AddressSync

open Sync Simulation Directory Scene

namespace Moment

/-- The moment is one that keeps work from being done: a call that fails, or a request to stop. -/
def Hinders (m : Moment) : Prop := m.Fails ∨ m = .stopAsked true

def addsItems : Moment → Bool
  | .called (.createItems ..) .. => true
  | _ => false

def removesItems : Moment → Bool
  | .called (.deleteItems ..) .. => true
  | _ => false

end Moment

namespace Directory

variable {K : RecordsKey → Prop} {target : ListTarget} {s s' : Scene} {es : List Moment}
  {reply : Except Failure (NamedList × Bool)} {l : NamedList} {created : Bool}

theorem Obtained.preserves {P : Provider → Prop} (obtained : Obtained K target s es reply s')
    (start : P s.provider) (made : ∀ p, P p →
      P (p.perform (.createList target.account target.name target.description)).2) :
    P s'.provider := by
  cases obtained with
  | unread es e s' reads | found es l s' reads =>
    rw [reads.quiet.provider]
    exact start
  | created es l s₁ p t t' reads ends | refused es e s₁ p t reads ends =>
    rw [← reads.quiet.provider] at start
    exact ends.preserves start (made _ start)

theorem Obtained.named (obtained : Obtained K target s es (.ok (l, created)) s') :
    s'.provider.named? target = some l ∧ s'.provider.itemsOf l.id = s.provider.contents target := by
  cases obtained with
  | found es l s' reads =>
    have named := (reads.true_of_ok _ rfl).symm
    rw [reads.quiet.provider]
    exact ⟨named, (Provider.contents_of_named? named).symm⟩
  | created es l s₁ p t t' reads ends =>
    have missing := (reads.true_of_ok _ rfl).symm
    obtain ⟨made, rfl⟩ := ends.of_ok
    cases made
    refine ⟨Provider.named?_createList, ?_⟩
    rw [Provider.contents, missing]
    exact Provider.itemsOf_createList.trans (if_pos rfl)

theorem Obtained.quiet_of_found (obtained : Obtained K target s es (.ok (l, false)) s') :
    s.Quiet es s' := by
  cases obtained with
  | found es l s' reads => exact reads.quiet

theorem Obtained.not_created (obtained : Obtained K target s es (.ok (l, created)) s')
    (named : (s.provider.named? target).isSome) : created = false := by
  cases obtained with
  | found => rfl
  | created es l s₁ p t t' reads =>
    rw [← reads.true_of_ok _ rfl] at named
    cases named

theorem Obtained.hindered {e : Failure} (obtained : Obtained K target s es (.error e) s') :
    ∃ m ∈ es, m.Fails := by
  cases obtained with
  | unread es e s' reads => exact reads.failed e rfl
  | refused es e s₁ p t reads ends =>
    exact ⟨_, List.mem_append_right es (List.mem_singleton_self _), rfl⟩

end Directory

namespace Reconcile

variable {K : RecordsKey → Prop} {target : ListTarget} {id : String} {blocks : List Block}
  {items : List ListItem} {changed stopped : Bool} {s s' : Scene} {es : List Moment}
  {sightings : Sightings} {outcome : Outcome} {report : Report}

theorem Added.applied (added : Added target id s blocks es true s') :
    s'.provider.itemsOf id = s.provider.itemsOf id ++ Provider.newItems s.provider.made blocks ∧
      s'.provider.lists = s.provider.lists := by
  cases added with
  | none => exact ⟨(List.append_nil _).symm, rfl⟩
  | added blocks created es s' some adds =>
    rw [adds.ends.of_ok.2]
    exact ⟨Provider.itemsOf_createItems.trans (if_pos rfl), Provider.changesItems_create.lists⟩

theorem Added.coherent {done : Bool} (h : s.CoherentOn K)
    (added : Added target id s blocks es done s') : s'.CoherentOn K := by
  cases added with
  | none => exact h
  | added _ _ _ _ _ adds | refused _ _ _ _ _ adds =>
    exact h.change_items Provider.changesItems_create adds

theorem Exchanged.coherent {result : Outcome × Bool} {missing : List Block} (h : s.CoherentOn K)
    (exchanged : Exchanged target id missing items changed s es result s') : s'.CoherentOn K := by
  cases exchanged with
  | refused es s' added | added es s' added _ | stopped es s' added _ => exact added.coherent h
  | removed es es' s₁ s' added _ removes | unremoved es es' e s₁ s' added _ removes =>
    exact (added.coherent h).change_items Provider.changesItems_delete removes

theorem applied_of_current {made : Nat} (missing : sightings.missing items = [])
    (excess : sightings.excess items = []) : sightings.applied made items = items := by
  rw [Sightings.applied, missing, Provider.newItems, List.append_nil]
  refine List.filter_eq_self.mpr fun item mem => ?_
  simpa using List.filter_eq_nil_iff.mp excess item mem

/-- As identifiers are distinct, the removals take just the items that are to go. -/
theorem filter_excess {made : Nat} (distinct : (items.map ListItem.id).Nodup)
    (unnumbered : Provider.Unnumbered made items) :
    (items ++ Provider.newItems made (sightings.missing items)).filter
        (fun item => !((sightings.excess items).map ListItem.id).contains item.id) =
      sightings.applied made items := by
  rw [Sightings.applied, List.filter_append]
  congr 1
  · refine List.filter_congr fun item mem => congrArg not ?_
    rw [Bool.eq_iff_iff, List.contains_iff_mem, List.mem_map]
    constructor
    · rintro ⟨other, gone, same⟩
      obtain ⟨held, excess⟩ := List.mem_filter.mp gone
      rwa [← List.inj_on_of_nodup_map distinct held mem same]
    · intro excess
      exact ⟨item, List.mem_filter.mpr ⟨mem, excess⟩, rfl⟩
  · refine List.filter_eq_self.mpr fun item mem => ?_
    rw [Bool.not_eq_true', ← Bool.not_eq_true, List.contains_iff_mem, List.mem_map]
    rintro ⟨old, gone, same⟩
    exact unnumbered.id_ne (List.mem_filter.mp gone).1 mem same

theorem Exchanged.applied
    (exchanged : Exchanged target id (sightings.missing items) (sightings.excess items) changed s es
      (.updated, false) s') (held : s.provider.itemsOf id = items)
    (distinct : (items.map ListItem.id).Nodup)
    (unnumbered : Provider.Unnumbered s.provider.made items) :
    s'.provider.itemsOf id = sightings.applied s.provider.made items ∧
      s'.provider.lists = s.provider.lists := by
  rw [← filter_excess distinct unnumbered]
  generalize result : (Outcome.updated, false) = ended at exchanged
  cases exchanged with
  | refused | unremoved => cases congrArg Prod.fst result
  | stopped => cases congrArg Prod.snd result
  | added es s' added none =>
    obtain ⟨after, lists⟩ := added.applied
    rw [after, held, none]
    refine ⟨(List.filter_eq_self.mpr fun item _ => rfl).symm, lists⟩
  | removed es es' s₁ s' added some removes =>
    obtain ⟨after, lists⟩ := added.applied
    rw [removes.ends.of_ok.2]
    refine ⟨?_, Provider.changesItems_delete.lists.trans lists⟩
    rw [Provider.itemsOf_deleteItems, if_pos rfl, after, held]

theorem Exchanged.outcome_cases {result : Outcome × Bool} {missing : List Block}
    (exchanged : Exchanged target id missing items changed s es result s') :
    result.1 = .updated ∨ result.1 = .failed ∧ ∃ m ∈ es, m.Hinders := by
  cases exchanged with
  | refused es s' added =>
    cases added with
    | refused _ e _ _ _ adds =>
      obtain ⟨m, mem, fails⟩ := adds.failed
      exact .inr ⟨rfl, m, mem, .inl fails⟩
  | added | removed => exact .inl rfl
  | stopped es s' added =>
    have asked : ∃ m ∈ es ++ [.stopAsked true], m.Hinders :=
      ⟨_, List.mem_append_right es (List.mem_singleton_self _), .inr rfl⟩
    dsimp only
    split
    · exact .inl rfl
    · exact .inr ⟨rfl, asked⟩
  | unremoved es es' e s₁ s' added some removes =>
    obtain ⟨m, mem, fails⟩ := removes.failed
    exact .inr ⟨rfl, m, List.mem_append_right es (List.mem_cons_of_mem _ mem), .inl fails⟩

theorem Populated.hindered (populated : Populated K target sightings s es report s')
    (failed : report.outcome = .failed) : ∃ m ∈ es, m.Hinders := by
  cases populated with
  | stopped => exact ⟨_, List.mem_singleton_self _, .inr rfl⟩
  | unobtained es e s' obtained =>
    obtain ⟨m, mem, fails⟩ := obtained.hindered
    exact ⟨m, List.mem_cons_of_mem _ mem, .inl fails⟩
  | unlisted es es' l created e s₁ s' obtained reads =>
    obtain ⟨m, mem, fails⟩ := reads.failed e rfl
    exact ⟨m, List.mem_cons_of_mem _ (List.mem_append_right es mem), .inl fails⟩
  | current es es' l created => cases created <;> cases failed
  | exchanged es es' es'' l created s₁ s₂ s' outcome stopped obtained reads some exchanged =>
    rcases exchanged.outcome_cases with updated | ⟨_, m, mem, hinders⟩
    · cases updated.symm.trans failed
    · refine ⟨m, List.mem_cons_of_mem _ (List.mem_append_right es ?_), hinders⟩
      exact List.mem_append_right es' mem

theorem Populated.applied (populated : Populated K target sightings s es report s')
    (apart : s.provider.ItemsApart) (done : report.outcome = .updated ∨ report.outcome = .unchanged)
    (ended : report.stopped = false) :
    s'.CoherentOn K ∧ ∃ l made, s'.provider.named? target = some l ∧
      Provider.Unnumbered made (s.provider.contents target) ∧
        s'.provider.itemsOf l.id = sightings.applied made (s.provider.contents target) := by
  have kept {es : List Moment} {reply : Except Failure (NamedList × Bool)} {s₁ : Scene}
      (obtained : Obtained K target s es reply s₁) : s₁.provider.ItemsApart :=
    obtained.preserves apart fun p apart => apart.perform _
  cases populated with
  | stopped | unobtained | unlisted => rcases done with done | done <;> cases done
  | current es es' l created s₁ s' obtained reads missing excess =>
    obtain ⟨named, held⟩ := obtained.named
    have unnumbered := (kept obtained).unnumbered l.id
    rw [held] at missing excess unnumbered
    rw [reads.quiet.provider]
    refine ⟨reads.coherent, l, s₁.provider.made, named, unnumbered, ?_⟩
    rw [held, applied_of_current missing excess]
  | exchanged es es' es'' l created s₁ s₂ s' outcome stopped obtained reads some exchanged =>
    obtain rfl : stopped = false := ended
    obtain rfl : outcome = .updated := by
      rcases exchanged.outcome_cases with updated | ⟨failed, _⟩
      · exact updated
      · rcases done with done | done
        · exact done
        · cases failed.symm.trans done
    obtain ⟨named, held⟩ := obtained.named
    have coherent := exchanged.coherent reads.coherent
    have distinct := (kept obtained).distinct l.id
    have unnumbered := (kept obtained).unnumbered l.id
    rw [← reads.quiet.provider] at unnumbered named held exchanged distinct
    rw [held] at distinct unnumbered exchanged
    obtain ⟨after, lists⟩ := exchanged.applied held distinct unnumbered
    refine ⟨coherent, l, s₂.provider.made, ?_, unnumbered, after⟩
    rw [Provider.named?, Provider.listsOf, lists]
    exact named

structure Batches (es : List Moment) (additions removals : Nat) : Prop where
  additions : es.countP Moment.addsItems ≤ additions
  removals : es.countP Moment.removesItems ≤ removals

theorem Batches.append {es' : List Moment} {a b q r : Nat} (first : Batches es a r)
    (rest : Batches es' b q) : Batches (es ++ es') (a + b) (r + q) where
  additions := by
    rw [List.countP_append]
    exact Nat.add_le_add first.additions rest.additions
  removals := by
    rw [List.countP_append]
    exact Nat.add_le_add first.removals rest.removals

theorem batches_asked (answer : Bool) : Batches [.stopAsked answer] 0 0 :=
  ⟨Nat.le_refl 0, Nat.le_refl 0⟩

theorem Quiet.batches (quiet : s.Quiet es s') : Batches es 0 0 := by
  have reads (test : Moment → Bool) (mutates : ∀ m, test m → m.Mutates) : es.countP test ≤ 0 := by
    refine Nat.le_of_eq (List.countP_eq_zero.mpr fun m mem counted => ?_)
    exact (quiet.moments m mem).1 (mutates m counted)
  refine ⟨reads _ fun m counted => ?_, reads _ fun m counted => ?_⟩
  · unfold Moment.addsItems at counted
    split at counted
    · rfl
    · cases counted
  · unfold Moment.removesItems at counted
    split at counted
    · rfl
    · cases counted

theorem Obtained.batches {reply : Except Failure (NamedList × Bool)}
    (obtained : Obtained K target s es reply s') : Batches es 0 0 := by
  cases obtained with
  | unread es e s' reads | found es l s' reads => exact Quiet.batches reads.quiet
  | created _ _ _ _ _ _ reads | refused _ _ _ _ _ reads =>
    refine (Quiet.batches reads.quiet).append (b := 0) (q := 0) ?_
    exact ⟨Nat.le_refl 0, Nat.le_refl 0⟩

theorem Added.batches {done : Bool} (added : Added target id s blocks es done s') :
    Batches es 1 0 := by
  cases added with
  | none => exact ⟨Nat.zero_le 1, Nat.le_refl 0⟩
  | added _ _ _ _ _ adds | refused _ _ _ _ _ adds =>
    rw [adds.moments]
    exact ⟨Nat.le_refl 1, Nat.le_refl 0⟩

theorem Exchanged.batches {result : Outcome × Bool} {missing : List Block}
    (exchanged : Exchanged target id missing items changed s es result s') : Batches es 1 1 := by
  cases exchanged with
  | refused es s' added | added es s' added =>
    exact ⟨added.batches.additions, Nat.le_succ_of_le added.batches.removals⟩
  | stopped es s' added =>
    exact added.batches.append (b := 0) (q := 1) ⟨Nat.le_refl 0, Nat.zero_le 1⟩
  | removed es es' s₁ s' added _ removes | unremoved es es' _ s₁ s' added _ removes =>
    rw [removes.moments]
    exact added.batches.append (b := 0) (q := 1) ⟨Nat.le_refl 0, Nat.le_refl 1⟩

theorem Populated.batches (populated : Populated K target sightings s es report s') :
    Batches es 1 1 := by
  have more {es : List Moment} (none : Batches es 0 0) : Batches es 1 1 :=
    ⟨Nat.le_succ_of_le none.additions, Nat.le_succ_of_le none.removals⟩
  cases populated with
  | stopped => exact more (batches_asked true)
  | unobtained es e s' obtained => exact more ((batches_asked false).append (Obtained.batches obtained))
  | unlisted es es' l created e s₁ s' obtained reads
  | current es es' l created s₁ s' obtained reads =>
    have read := (Obtained.batches obtained).append (Quiet.batches reads.quiet)
    exact more ((batches_asked false).append read)
  | exchanged es es' es'' l created s₁ s₂ s' outcome stopped obtained reads some exchanged =>
    have changed := (Quiet.batches reads.quiet).append exchanged.batches
    exact (batches_asked false).append ((Obtained.batches obtained).append changed)

theorem Populated.unchanged (populated : Populated K target sightings s es report s')
    (unchanged : report.outcome = .unchanged) : ∀ m ∈ es, ¬ m.Mutates := by
  cases populated with
  | stopped | unobtained | unlisted => cases unchanged
  | current es es' l created s₁ s' obtained reads =>
    cases created with
    | true => cases unchanged
    | false =>
      have quiet := (quiet_stopAsked false).trans (obtained.quiet_of_found.trans reads.quiet)
      exact fun m mem => (quiet.moments m mem).1
  | exchanged es es' es'' l created s₁ s₂ s' outcome stopped obtained reads some exchanged =>
    rcases exchanged.outcome_cases with updated | ⟨failed, _⟩
    · cases updated.symm.trans unchanged
    · cases failed.symm.trans unchanged

theorem Populated.settled (populated : Populated K target sightings s es report s')
    (named : (s.provider.named? target).isSome)
    (settled : sightings.missing (s.provider.contents target) = [] ∧
      sightings.excess (s.provider.contents target) = []) (free : ∀ m ∈ es, ¬ m.Hinders) :
    report = ⟨.list target.print, .unchanged, false⟩ := by
  have unfailed : report.outcome ≠ .failed := by
    intro failed
    obtain ⟨m, mem, hinders⟩ := populated.hindered failed
    exact free m mem hinders
  cases populated with
  | stopped | unobtained | unlisted => exact absurd rfl unfailed
  | current es es' l created s₁ s' obtained reads =>
    rw [obtained.not_created named]
    rfl
  | exchanged es es' es'' l created s₁ s₂ s' outcome stopped obtained reads some =>
    -- Something was planned, although the list already held what is to be there.
    rw [obtained.named.2] at some
    exact absurd settled some

/-- Work that is reported as done, and not as stopped, leaves the list with items that follow, for
each family, from what was seen, and doing it again, unhindered, finds nothing to do. In any case
there is at most one call for additions and one for removals, and none that may change anything where
it is reported that nothing was changed. -/
theorem populate_outcome (h : s.Coherent) (apart : s.provider.ItemsApart)
    (run : Sync.Runs (populate target sightings) s es report s') :
    (report.outcome = .updated ∨ report.outcome = .unchanged → report.stopped = false →
      s'.provider.HasList target ∧
      (∀ family, Follows (s.provider.contents target) family (sightings.of family)
        ((s'.provider.contents target).filter (·.block.family = family))) ∧
      ∀ es' report' s'', Sync.Runs (populate target sightings) s' es' report' s'' →
        (∀ m ∈ es', ¬ m.Hinders) →
          report' = ⟨.list target.print, .unchanged, false⟩ ∧ ∀ m ∈ es', ¬ m.Mutates) ∧
    es.countP Moment.addsItems ≤ 1 ∧ es.countP Moment.removesItems ≤ 1 ∧
    (report.outcome = .unchanged → ∀ m ∈ es, ¬ m.Mutates) := by
  have populated := ensures_populate h target sightings es report s' run
  refine ⟨fun done ended => ?_, populated.batches.additions, populated.batches.removals,
    populated.unchanged⟩
  obtain ⟨coherent, l, made, named, unnumbered, after⟩ := populated.applied apart done ended
  rw [← Provider.contents_of_named? named] at after
  have follows (family : Family) : Follows (s.provider.contents target) family (sightings.of family)
      ((s'.provider.contents target).filter (·.block.family = family)) := by
    rw [after]
    exact follows_applied unnumbered family
  refine ⟨⟨l, Provider.names_of_find? named⟩, follows, fun es' report' s'' again free => ?_⟩
  have populated := ensures_populate coherent target sightings es' report' s'' again
  have some : (s'.provider.named? target).isSome := by
    rw [named]
    rfl
  have same := populated.settled some (planned_of_follows follows) free
  refine ⟨same, populated.unchanged ?_⟩
  rw [same]

def stocked : Provider :=
  (((({} : Provider).perform (.createList "acct" "hosts" "")).2).perform
    (.createItems "acct" "list-1" [(Address.v4 1).listedBlock, (Address.v4 2).listedBlock,
      (Address.v6 1).listedBlock] "")).2

def stock : ListTarget where
  account := "acct"
  name := "hosts"

def glimpse : Sightings where
  v4 := .seen (.v4 2)
  v6 := .unknown

def untended : World where
  provider := stocked
  caches := .empty 60000

def tended : World := (untended.run (populate stock glimpse)).2

theorem populate_outcome_tended :
    (∃ es, Sync.Runs (populate stock glimpse) untended.scene es ⟨.list "acct/hosts", .updated, false⟩
      tended.scene) ∧
    (tended.provider.contents stock).map ListItem.id = ["item-3", "item-4"] ∧
    ∃ es s', Sync.Runs (populate stock glimpse) tended.scene es
      ⟨.list "acct/hosts", .unchanged, false⟩ s' ∧ ∀ m ∈ es, ¬ m.Mutates := by
  have undisturbed : untended.Undisturbed := rfl
  have still : tended.Undisturbed := rfl
  have apart : untended.scene.provider.ItemsApart :=
    (Provider.itemsApart_empty.perform _).perform _
  have updated : (untended.run (populate stock glimpse)).1 = ⟨.list "acct/hosts", .updated, false⟩ := by
    decide
  have asked : tended.trace (populate stock glimpse) = [.stopAsked false] := by rfl
  have run := World.runs_trace (populate stock glimpse) undisturbed
  have again := World.runs_trace (populate stock glimpse) still
  rw [updated] at run
  rw [asked] at again
  obtain ⟨_, _, repeated⟩ := (populate_outcome Scene.coherentOn_empty apart run).1 (.inl rfl) rfl
  obtain ⟨same, quiet⟩ := repeated _ _ _ again (by simp [Moment.Hinders, Moment.Fails])
  rw [same] at again
  exact ⟨⟨_, run⟩, by decide, _, _, again, quiet⟩

end Reconcile

end AddressSync
