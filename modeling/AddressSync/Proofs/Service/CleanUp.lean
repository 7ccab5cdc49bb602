import AddressSync.Proofs.Reconcile.Retirement
import AddressSync.Proofs.Service.Work
import AddressSync.Proofs.Surroundings.Simulated

/-! What a clean-up that succeeded has removed. The lists are gone or being emptied. Of the records
of a domain, nothing is left exactly if some withdrawal of them came to its end: one that was
stopped by its deadline after a deletion counts as done, although records are left. -/

namespace AddressSync

open Sync Simulation Reconcile Scene

variable {es es' : List Moment} {about : Subject} {target : ListTarget}

/-- It was told of work on the subject that came to its end. -/
def CameToEnd (es : List Moment) (subject : Subject) : Prop :=
  ∃ outcome p, .told (.reconciled ⟨subject, outcome, false⟩) p ∈ es

theorem cameToEnd_append :
    CameToEnd (es ++ es') about ↔ CameToEnd es about ∨ CameToEnd es' about := by
  simp only [CameToEnd, List.mem_append, exists_or]

theorem cameToEnd_told {report : Report} {p : Provider} :
    CameToEnd [.told (.reconciled report) p] about ↔
      report.subject = about ∧ report.stopped = false := by
  obtain ⟨subject, outcome, stopped⟩ := report
  constructor
  · intro ⟨outcome', p', mem⟩
    cases List.mem_singleton.mp mem
    exact ⟨rfl, rfl⟩
  · intro ⟨same, ended⟩
    cases same
    cases ended
    exact ⟨outcome, p, List.mem_singleton_self _⟩

theorem Untold.not_cameToEnd (untold : Untold es) : ¬ CameToEnd es about := by
  intro ⟨outcome, p, mem⟩
  exact untold _ mem trivial

theorem Untold.cameToEnd_told {report : Report} {p : Provider} (untold : Untold es) :
    CameToEnd (es ++ [.told (.reconciled report) p]) about ↔
      report.subject = about ∧ report.stopped = false := by
  rw [cameToEnd_append, or_iff_right untold.not_cameToEnd, AddressSync.cameToEnd_told]

theorem Reconcile.Emptied.append_left (h : Emptied target es) : Emptied target (es ++ es') := by
  obtain ⟨l, before, after, names, mem⟩ := h
  exact ⟨l, before, after, names, List.mem_append_left es' mem⟩

theorem Reconcile.Emptied.append_right (h : Emptied target es') : Emptied target (es ++ es') := by
  obtain ⟨l, before, after, names, mem⟩ := h
  exact ⟨l, before, after, names, List.mem_append_right es mem⟩

namespace Service

inductive Managed
  | records (domain : Domain) (family : Family)
  | list (target : ListTarget)

namespace Managed

def subject : Managed → Subject
  | records domain family => .records domain.print family
  | list target => .list target.print

def removal : Managed → Sync Report
  | records domain family => withdraw domain family true
  | list target => retire target

/-- How far the thing is gone after moments of work on it. -/
def Removed (es : List Moment) (p : Provider) : Managed → Prop
  | records domain family => (∃ zone, p.ownerOf domain = .ok zone) ∧
      (p.listing domain family = [] ↔ CameToEnd es (.records domain.print family))
  | list target => p.HasList target → Emptied target es

end Managed

open Managed

variable {s s' s'' : Scene} {reports reports' : List Report} {items items' : List Managed}

/-- What is known after all of the items were to be removed: nothing else was touched, nothing else
was told of, and if no removal failed, each of the items is gone. -/
structure Cleared (items : List Managed) (s : Scene) (es : List Moment) (reports : List Report)
    (s' : Scene) : Prop where
  coherent : s'.ZonesCoherent
  shrinks : s.provider.Shrinks s'.provider
  elsewhere : ∀ domain family, .records domain.print family ∉ items.map subject →
    s'.provider.listing domain family = s.provider.listing domain family
  ends : ∀ about, CameToEnd es about → about ∈ items.map subject
  removed : (∀ report ∈ reports, report.outcome ≠ .failed) →
    ∀ m ∈ items, m.Removed es s'.provider

def AllParsed (items : List Managed) : Prop :=
  ∀ domain family, .records domain family ∈ items → domain.IsParsed

theorem AllParsed.of_append (parsed : AllParsed (items ++ items')) :
    AllParsed items ∧ AllParsed items' := by
  constructor
  · intro domain family mem
    exact parsed domain family (List.mem_append_left items' mem)
  · intro domain family mem
    exact parsed domain family (List.mem_append_right items mem)

theorem AllParsed.mem_of_subject {domain : Domain} {family : Family} (parsed : AllParsed items)
    (read : domain.IsParsed) (mem : .records domain.print family ∈ items.map subject) :
    .records domain family ∈ items := by
  obtain ⟨m, placed, same⟩ := List.mem_map.mp mem
  cases m with
  | list target => cases same
  | records domain' family' =>
    obtain ⟨sameName, rfl⟩ := Subject.records.inj same
    have sameDomain := (parsed domain' family' placed).eq_of_print read sameName
    rwa [← sameDomain]

theorem cleared_nil (h : s.ZonesCoherent) : Cleared [] s [] [] s where
  coherent := h
  shrinks := .refl s.provider
  elsewhere _ _ _ := rfl
  ends _ ended := absurd ended untold_nil.not_cameToEnd
  removed _ _ mem := absurd mem List.not_mem_nil

/-- What is gone stays gone while more is removed. What a stopped withdrawal left may go later, if
the same domain comes again. -/
theorem Cleared.append (parsed : AllParsed (items ++ items'))
    (first : Cleared items s es reports s') (rest : Cleared items' s' es' reports' s'') :
    Cleared (items ++ items') s (es ++ es') (reports ++ reports') s'' where
  coherent := rest.coherent
  shrinks := first.shrinks.trans rest.shrinks
  elsewhere domain family other := by
    rw [List.map_append, List.mem_append, not_or] at other
    exact (rest.elsewhere domain family other.2).trans (first.elsewhere domain family other.1)
  ends about ended := by
    rw [List.map_append, List.mem_append]
    exact (cameToEnd_append.mp ended).imp (first.ends about) (rest.ends about)
  removed done m mem := by
    have gone := first.removed fun report mem => done report (List.mem_append_left _ mem)
    have gone' := rest.removed fun report mem => done report (List.mem_append_right _ mem)
    cases m with
    | list target =>
      intro has
      rcases List.mem_append.mp mem with mem | mem
      · exact (gone _ mem (rest.shrinks.hasList has)).append_left
      · exact (gone' _ mem has).append_right
    | records domain family =>
      have read := parsed domain family mem
      have before : CameToEnd es (.records domain.print family) →
          s'.provider.listing domain family = [] := by
        intro ended
        have there := parsed.of_append.1.mem_of_subject read (first.ends _ ended)
        exact (gone _ there).2.mpr ended
      by_cases again : .records domain.print family ∈ items'.map subject
      · obtain ⟨owned, ends⟩ := gone' _ (parsed.of_append.2.mem_of_subject read again)
        refine ⟨owned, fun none => cameToEnd_append.mpr (.inr (ends.mp none)), fun ended => ?_⟩
        rcases cameToEnd_append.mp ended with ended | ended
        · exact rest.shrinks.listing_eq_nil (before ended)
        · exact ends.mpr ended
      · have here : records domain family ∈ items := by
          refine (List.mem_append.mp mem).resolve_right fun mem => again ?_
          exact List.mem_map.mpr ⟨_, mem, rfl⟩
        obtain ⟨owned, ends⟩ := gone _ here
        refine ⟨?_, ?_⟩
        · rwa [rest.shrinks.ownerOf domain]
        · rw [rest.elsewhere domain family again, ends, cameToEnd_append]
          exact (or_iff_left fun ended => again (rest.ends _ ended)).symm

theorem cleared_single {m : Managed} {report : Report} (removes : s.Removes m.subject es s')
    (same : report.subject = m.subject)
    (gone : report.outcome ≠ .failed →
      m.Removed (es ++ [.told (.reconciled report) s'.provider]) s'.provider) :
    Cleared [m] s (es ++ [.told (.reconciled report) s'.provider]) [report] s' := by
  refine ⟨removes.coherent, removes.shrinks, fun domain family other => ?_, ?_, ?_⟩
  · refine removes.elsewhere domain family fun same => other ?_
    exact List.mem_singleton.mpr same.symm
  · intro about ended
    obtain ⟨rfl, _⟩ := removes.untold.cameToEnd_told.mp ended
    exact List.mem_singleton.mpr same
  · intro done m' mem
    rw [List.mem_singleton.mp mem]
    exact gone (done report (List.mem_singleton_self report))

theorem ensures_removal (service : Service) (h : s.ZonesCoherent)
    (distinct : s.provider.RecordsDistinct)
    (names : ∀ account, ListIndex.NamesDistinct (s.provider.listsOf account)) (m : Managed) :
    Sync.Ensures (service.reconcile m.removal) s fun es report s' =>
      Cleared [m] s es [report] s' := by
  cases m with
  | records domain family =>
    refine (ensures_reconcile (ensures_withdraw h distinct domain family)).mono ?_
    intro es report s' ⟨es', moments, removes, same, exact⟩
    subst moments
    refine cleared_single removes same fun done => ?_
    obtain ⟨owned, ended⟩ := exact done
    refine ⟨?_, ?_⟩
    · rwa [removes.shrinks.ownerOf domain]
    · rw [ended, removes.untold.cameToEnd_told]
      exact (and_iff_right same).symm
  | list target =>
    refine (ensures_reconcile (ensures_retire h (names target.account))).mono ?_
    intro es report s' ⟨es', moments, removes, same, emptied⟩
    subst moments
    refine cleared_single removes same fun done has => ?_
    exact (emptied done has).append_left

/-- All removals, one after the other: each is made whatever came of those before. -/
theorem ensures_throughout (service : Service) (parsed : AllParsed items) (h : s.ZonesCoherent)
    (distinct : s.provider.RecordsDistinct)
    (names : ∀ account, ListIndex.NamesDistinct (s.provider.listsOf account)) :
    Sync.Ensures (service.throughout (items.map Managed.removal)) s fun es reports s' =>
      Cleared items s es reports s' := by
  induction items generalizing s with
  | nil => exact Program.ensures_pure_iff.mpr (cleared_nil h)
  | cons m items ih =>
    have parsed : AllParsed ([m] ++ items) := parsed
    refine (ensures_removal service h distinct names m).bind fun es report s' first => ?_
    have distinct := first.shrinks.recordsDistinct distinct
    have names := fun account => first.shrinks.namesDistinct (names account)
    refine (ih parsed.of_append.2 first.coherent distinct names).bind fun es' reports s'' rest => ?_
    refine Program.ensures_pure_iff.mpr ?_
    rw [List.append_nil]
    exact first.append parsed rest

variable {service : Service}

def managed (service : Service) : List Managed :=
  (service.settings.families.flatMap fun family =>
    (service.settings.domains family).map fun domain => .records domain family) ++
  service.settings.lists.map .list

theorem removals_eq_map : service.removals = service.managed.map Managed.removal := by
  simp only [removals, managed, List.map_append, List.map_flatMap, List.map_map]
  rfl

theorem countOutcome_eq_zero {outcome : Outcome} :
    countOutcome reports outcome = 0 ↔ ∀ report ∈ reports, report.outcome ≠ outcome := by
  simp [countOutcome]

theorem ensures_cleanUp (parsed : AllParsed service.managed)
    (distinct : s.provider.RecordsDistinct)
    (names : ∀ account, ListIndex.NamesDistinct (s.provider.listsOf account)) :
    Sync.Ensures service.cleanUp s fun es result s' =>
      result = .ok () → ∀ m ∈ service.managed, m.Removed es s'.provider := by
  refine ensures_log_iff.mpr (ensures_revise_iff.mpr fun t later => ?_)
  have fresh : ZonesCoherent ⟨t, s.provider, s.caches.flush⟩ :=
    (coherentOn_flush (K := fun _ => True)).toZonesCoherent
  rw [removals_eq_map]
  refine (ensures_throughout service parsed fresh distinct names).bind
    fun es reports s' cleared => ?_
  dsimp only
  split
  · exact ensures_log_iff.mpr (Program.ensures_pure_iff.mpr fun failed => nomatch failed)
  · next none =>
    refine Program.ensures_pure_iff.mpr fun _ => ?_
    rw [List.append_nil]
    exact cleared.removed (countOutcome_eq_zero.mp (Nat.eq_zero_of_not_pos none))

/-- After a clean-up that reports success, each managed list is gone or accepted to be emptied, and
each managed domain has a zone in which nothing of it is left, exactly if a withdrawal of its
records came to its end. -/
theorem removed_of_cleanUp
    (parsed : ∀ family, ∀ domain ∈ service.settings.domains family, domain.IsParsed)
    (distinct : s.provider.RecordsDistinct)
    (names : ∀ account, ListIndex.NamesDistinct (s.provider.listsOf account))
    (run : Sync.Runs service.cleanUp s es (.ok ()) s') :
    (∀ family ∈ service.settings.families, ∀ domain ∈ service.settings.domains family,
      (∃ zone, s'.provider.ownerOf domain = .ok zone) ∧
        (s'.provider.listing domain family = [] ↔
          CameToEnd es (.records domain.print family))) ∧
    ∀ target ∈ service.settings.lists, s'.provider.HasList target → Emptied target es := by
  have placed (family : Family) (domain : Domain) :
      .records domain family ∈ service.managed ↔
        family ∈ service.settings.families ∧ domain ∈ service.settings.domains family := by
    simp [managed, and_left_comm]
  have parsed : AllParsed service.managed := fun domain family mem =>
    parsed family domain ((placed family domain).mp mem).2
  have removed := ensures_cleanUp parsed distinct names es (.ok ()) s' run rfl
  refine ⟨fun family enabled domain mem => ?_, fun target mem => ?_⟩
  · exact removed _ ((placed family domain).mpr ⟨enabled, mem⟩)
  · refine removed (.list target) (List.mem_append_right _ ?_)
    exact List.mem_map_of_mem mem

def slow : World where
  provider.zones := [⟨"z", "example.com", .active⟩]
  provider.records := [⟨"z", "www.example.com", ⟨"a", .v4 1, {}⟩⟩,
    ⟨"z", "www.example.com", ⟨"b", .v4 2, {}⟩⟩]
  latencies := [(.deleteRecord, 31000)]
  caches := .empty 60000

def keeper : Service where
  settings.access.token := "t"
  settings.domainsV4 := some [.plain "www.example.com"]
  provider := Provider.name
  source := sourceName

theorem removed_of_cleanUp_slow : keeper.settings.validate = .ok () ∧
    ∃ es s', Sync.Runs keeper.cleanUp slow.scene es (.ok ()) s' ∧
      (s'.provider.listing (.plain "www.example.com") .v4).map Record.id = ["b"] ∧
        ¬ CameToEnd es (.records "www.example.com" .v4) := by
  have undisturbed : slow.Undisturbed := rfl
  obtain ⟨es, run⟩ := World.runs_run keeper.cleanUp undisturbed
  have succeeded : (slow.run keeper.cleanUp).1 = .ok () := by rfl
  have left : ((slow.run keeper.cleanUp).2.scene.provider.listing
      (.plain "www.example.com") .v4).map Record.id = ["b"] := by decide
  rw [succeeded] at run
  have parsed : ∀ family, ∀ domain ∈ keeper.settings.domains family, domain.IsParsed := by
    intro family domain mem
    cases family with
    | v4 =>
      rw [List.mem_singleton.mp mem]
      exact ⟨"www.example.com", by rfl⟩
    | v6 => cases mem
  have distinct : slow.scene.provider.RecordsDistinct := by decide
  have names : ∀ account, ListIndex.NamesDistinct (slow.scene.provider.listsOf account) :=
    fun _ => List.nodup_nil
  have removed := (removed_of_cleanUp parsed distinct names run).1 .v4 (by decide)
    (.plain "www.example.com") (by decide)
  refine ⟨by rfl, es, _, run, left, fun ended => ?_⟩
  rw [removed.2.mpr ended] at left
  cases left

end Service

end AddressSync
