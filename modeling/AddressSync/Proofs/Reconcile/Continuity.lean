import AddressSync.Proofs.Reconcile.Convergence

/-! Publishing an address makes before it breaks. At every instant of a run the place has a record
if it had one at the start, and a record with the address if it had one at the start; and records
are deleted only beside one with the address, which itself is not to be deleted. -/

namespace AddressSync

open Sync Simulation Directory

namespace Moment

def deletion? : Moment → Option String
  | .called (.deleteRecord _ id) .. => some id
  | _ => none

def IsReplacement : Moment → Prop
  | .called (.updateRecord ..) .. | .called (.createRecord ..) .. => True
  | _ => False

def Succeeds : Moment → Prop
  | .called _ reply _ _ => reply.isOk = true
  | _ => False

theorem Throughout.imp {m : Moment} {P Q : Provider → Prop} (h : m.Throughout P)
    (imp : ∀ p, P p → Q p) : m.Throughout Q := by
  cases m with
  | called c reply before after => exact ⟨imp _ h.1, imp _ h.2⟩
  | told event provider => exact imp _ h
  | detected | stopAsked => trivial

theorem Throughout.and {m : Moment} {P Q : Provider → Prop} (h : m.Throughout P)
    (h' : m.Throughout Q) : m.Throughout fun p => P p ∧ Q p := by
  cases m with
  | called c reply before after => exact ⟨⟨h.1, h'.1⟩, h.2, h'.2⟩
  | told event provider => exact ⟨h, h'⟩
  | detected | stopAsked => trivial

theorem deletion?_of_reads {m : Moment} (reads : ¬ m.Mutates) : m.deletion? = none := by
  unfold deletion?
  split
  · exact absurd rfl reads
  · rfl

theorem not_isReplacement_of_reads {m : Moment} (reads : ¬ m.Mutates) : ¬ m.IsReplacement := by
  unfold IsReplacement
  split
  · exact absurd rfl reads
  · exact absurd rfl reads
  · exact id

end Moment

def deletions (es : List Moment) : List String := es.filterMap Moment.deletion?

structure Scene.Always (s : Scene) (P : Provider → Prop) (es : List Moment) (s' : Scene) : Prop where
  first : P s.provider
  moments : ∀ m ∈ es, m.Throughout P
  last : P s'.provider

namespace Reconcile

variable {t : Target} {kept id : String} {progress : Progress} {rest records start : List Record}
  {kept? : Option String} {p p' : Provider} {s s' : Scene} {es es' : List Moment}

/-- The place still has what it had at the start: some record, and one with the address. -/
structure Target.Keeps (t : Target) (start : List Record) (p : Provider) : Prop where
  some_record : start ≠ [] → t.held p ≠ []
  some_holder : (∃ r ∈ start, r.address = t.address) → ∃ r ∈ t.held p, r.address = t.address

theorem Target.keeps_held (t : Target) (p : Provider) : t.Keeps (t.held p) p := ⟨id, id⟩

theorem Target.Holds.keeps (h : t.Holds kept p) (start : List Record) : t.Keeps start p := by
  obtain ⟨r, mem, _, address⟩ := h
  exact ⟨fun _ => List.ne_nil_of_mem mem, fun _ => ⟨r, mem, address⟩⟩

theorem Target.Keeps.ends_update {reply : Except Failure Unit} {stale : Record}
    (ofFamily : t.address.family = t.family) (distinct : p.RecordsDistinct)
    (start : t.held p = stale :: rest) (absent : ∀ r ∈ stale :: rest, r.address ≠ t.address)
    (ends : p.Ends (t.update stale.id) reply p') : t.Keeps (stale :: rest) p' := by
  refine ⟨fun _ => ?_, fun ⟨r, mem, address⟩ => absurd address (absent r mem)⟩
  have mem : stale ∈ t.held p := by
    rw [start]
    exact List.mem_cons_self
  have within := distinct.recordWithin mem
  rw [← ofFamily] at within
  rcases ends.either with rfl | rfl
  · exact List.ne_nil_of_mem mem
  · rw [Target.held, Provider.recordsOf_updateRecord distinct within]
    exact List.ne_nil_of_mem (List.mem_map_of_mem mem)

theorem Target.Keeps.ends_create {reply : Except Failure Record} (h : t.Keeps start p)
    (ends : p.Ends t.create reply p') : t.Keeps start p' := by
  refine ends.preserves h ?_
  have more : t.held p ⊆ t.held (p.perform t.create).2 := by
    rw [Target.held, Target.held, Provider.recordsOf_createRecord]
    exact List.subset_append_left ..
  refine ⟨fun some => ?_, fun some => ?_⟩
  · obtain ⟨r, mem⟩ := List.exists_mem_of_ne_nil _ (h.some_record some)
    exact List.ne_nil_of_mem (more mem)
  · obtain ⟨r, mem, address⟩ := h.some_holder some
    exact ⟨r, more mem, address⟩

/-- A question whether to stop, or a deletion that leaves the record that stays where it is. -/
inductive Removal (t : Target) (kept : String) : Moment → Prop
  | asked (answer : Bool) : Removal t kept (.stopAsked answer)
  | deletion (id : String) (reply : Except Failure Unit) (before after : Provider)
    (holds : t.Holds kept before) (still : t.Holds kept after) :
    Removal t kept (.called (t.delete id) reply before after)

theorem Removal.throughout {m : Moment} (h : Removal t kept m) : m.Throughout (t.Holds kept) := by
  cases h with
  | asked answer => trivial
  | deletion id reply before after holds still => exact ⟨holds, still⟩

theorem Removal.not_isReplacement {m : Moment} (h : Removal t kept m) : ¬ m.IsReplacement := by
  cases h <;> exact not_false

/-- The deletions are made in the order of the records, and beside the one that stays. -/
theorem ensures_removeRest_removals (holds : t.Holds kept s.provider)
    (others : ∀ r ∈ rest, r.id ≠ kept) :
    Sync.Ensures (removeRest t progress rest) s fun es _ s' =>
      t.Holds kept s'.provider ∧ deletions es <+: rest.map Record.id ∧
        ∀ m ∈ es, Removal t kept m := by
  induction rest generalizing progress s with
  | nil =>
    refine Program.ensures_pure_iff.mpr ⟨holds, List.nil_prefix, ?_⟩
    exact fun m mem => absurd mem List.not_mem_nil
  | cons record rest ih =>
    refine ensures_stopRequested_iff.mpr fun stop => ?_
    cases stop with
    | true =>
      refine ensures_log_iff.mpr (Program.ensures_pure_iff.mpr ⟨holds, List.nil_prefix, ?_⟩)
      intro m mem
      rw [List.mem_singleton.mp mem]
      exact .asked true
    | false =>
      refine (ensures_change s).bind fun es reply s' change => ?_
      obtain ⟨_, rfl, ends, _⟩ := change
      have still := holds.ends_delete (others record List.mem_cons_self) ends
      have next (progress : Progress) :
          Sync.Ensures (removeRest t progress rest) s' fun es' _ s'' =>
            t.Holds kept s''.provider ∧
              deletions (.stopAsked false ::
                ([.called (t.delete record.id) reply s.provider s'.provider] ++ es')) <+:
                  (record :: rest).map Record.id ∧
              ∀ m ∈ .stopAsked false ::
                ([.called (t.delete record.id) reply s.provider s'.provider] ++ es'),
                  Removal t kept m := by
        refine (ih still fun r mem => others r (List.mem_cons_of_mem _ mem)).mono ?_
        rintro es' _ s'' ⟨holds', first, removals⟩
        refine ⟨holds', List.prefix_cons_inj _ |>.mpr first, fun m mem => ?_⟩
        rcases List.mem_cons.mp mem with rfl | mem
        · exact .asked false
        rcases List.mem_cons.mp mem with rfl | mem
        · exact .deletion record.id reply _ _ holds still
        · exact removals m mem
      cases reply with
      | ok x => exact ensures_log_iff.mpr (next _)
      | error e => exact ensures_log_iff.mpr (next _)

theorem Settled.keeps (ofFamily : t.address.family = t.family)
    (distinct : s.provider.RecordsDistinct)
    (settled : Settled t s (t.held s.provider) es kept? progress s') :
    (∀ m ∈ es, m.deletion? = none ∧ m.Throughout (t.Keeps (t.held s.provider))) ∧
      t.Keeps (t.held s.provider) s'.provider := by
  have first := t.keeps_held s.provider
  generalize start : t.held s.provider = records at settled first
  cases settled with
  | found _ r _ _ same =>
    rw [same]
    exact ⟨fun m mem => absurd mem List.not_mem_nil, first⟩
  | repointed stale rest _ absent ends =>
    have last := Target.Keeps.ends_update ofFamily distinct start absent ends
    refine ⟨fun m mem => ?_, last⟩
    rw [List.mem_singleton.mp mem]
    exact ⟨rfl, first, last⟩
  | replaced stale rest e p r _ absent updates creates
  | refused stale rest e e' p _ _ absent updates creates =>
    have middle := Target.Keeps.ends_update ofFamily distinct start absent updates
    have last := middle.ends_create creates
    refine ⟨fun m mem => ?_, last⟩
    rcases List.mem_cons.mp mem with rfl | mem
    · exact ⟨rfl, first, middle⟩
    · rw [List.mem_singleton.mp mem]
      exact ⟨rfl, middle, last⟩
  | created r _ creates | uncreated e _ _ creates =>
    have last := first.ends_create creates
    refine ⟨fun m mem => ?_, last⟩
    rw [List.mem_singleton.mp mem]
    exact ⟨rfl, first, last⟩

theorem Settled.replaced_or_found (settled : Settled t s records es (some kept) progress s') :
    (∃ m ∈ es, m.IsReplacement ∧ m.Succeeds) ∨
      (∃ r ∈ records, r.address = t.address) ∧ es = [] := by
  cases settled with
  | found _ r _ first _ =>
    have address := List.find?_some first
    exact .inr ⟨⟨r, List.mem_of_find?_eq_some first, of_decide_eq_true address⟩, rfl⟩
  | repointed | created => exact .inl ⟨_, List.mem_cons_self, trivial, rfl⟩
  | replaced => exact .inl ⟨_, List.mem_cons_of_mem _ List.mem_cons_self, trivial, rfl⟩

/-- What can be said of all instants of a run that brings a place from the listed records to the
target. -/
structure Continuous (t : Target) (start : List Record) (es : List Moment) (p : Provider) : Prop where
  removals : ∃ kept, deletions es <+: (start.filter (·.id ≠ kept)).map Record.id ∧
    ∀ m ∈ es, m.deletion? ≠ none → Removal t kept m
  moments : ∀ m ∈ es, m.Throughout (t.Keeps start)
  last : t.Keeps start p
  replaced : deletions es ≠ [] → (∃ m ∈ es, m.IsReplacement ∧ m.Succeeds) ∨
    (∃ r ∈ start, r.address = t.address) ∧ ∀ m ∈ es, ¬ m.IsReplacement

theorem deletions_eq_nil (none : ∀ m ∈ es, m.deletion? = none) : deletions es = [] :=
  List.filterMap_eq_nil_iff.mpr none

theorem deletions_append_of_none (none : ∀ m ∈ es, m.deletion? = none) :
    deletions (es ++ es') = deletions es' := by
  rw [deletions, List.filterMap_append]
  exact congrArg (· ++ deletions es') (deletions_eq_nil none)

theorem Continuous.of_undeleted (none : ∀ m ∈ es, m.deletion? = none)
    (moments : ∀ m ∈ es, m.Throughout (t.Keeps start)) (last : t.Keeps start p) :
    Continuous t start es p := by
  refine ⟨⟨"", ?_, fun m mem some => absurd (none m mem) some⟩, moments, last, fun some => ?_⟩
  · rw [deletions_eq_nil none]
    exact List.nil_prefix
  · exact absurd (deletions_eq_nil none) some

theorem ensures_converge_continuous (ofFamily : t.address.family = t.family)
    (distinct : s.provider.RecordsDistinct) :
    Sync.Ensures (converge t (t.held s.provider)) s fun es _ s' =>
      Continuous t (t.held s.provider) es s'.provider := by
  refine (ensures_settle t (t.held s.provider) s).bind ?_
  rintro es ⟨kept?, progress⟩ s' settled
  obtain ⟨settling, middle⟩ := settled.keeps ofFamily distinct
  cases kept? with
  | none =>
    refine Program.ensures_pure_iff.mpr ?_
    rw [List.append_nil]
    exact .of_undeleted (fun m mem => (settling m mem).1) (fun m mem => (settling m mem).2) middle
  | some kept =>
    obtain ⟨holds, others, _⟩ := settled.narrowed ofFamily distinct
    refine (ensures_removeRest_removals holds others).bind ?_
    rintro es' ⟨outcome, stopped⟩ s'' ⟨holds', first, removals⟩
    refine Silent.ensures_guard (silent_log _ _ _) (Program.ensures_pure_iff.mpr ?_)
    rw [List.append_nil]
    have deleted : deletions (es ++ es') = deletions es' :=
      deletions_append_of_none fun m mem => (settling m mem).1
    refine ⟨⟨kept, ?_, fun m mem some => ?_⟩, fun m mem => ?_, holds'.keeps _, fun _ => ?_⟩
    · rw [deleted]
      exact first
    · rcases List.mem_append.mp mem with mem | mem
      · exact absurd (settling m mem).1 some
      · exact removals m mem
    · rcases List.mem_append.mp mem with mem | mem
      · exact (settling m mem).2
      · exact (removals m mem).throughout.imp fun p holds => holds.keeps _
    · rcases settled.replaced_or_found with ⟨m, mem, replaced⟩ | ⟨found, rfl⟩
      · exact .inl ⟨m, List.mem_append_left _ mem, replaced⟩
      · exact .inr ⟨found, fun m mem => (removals m mem).not_isReplacement⟩

theorem Continuous.after_quiet {es' : List Moment} (quiet : s.Quiet es s')
    (h : Continuous t (t.held s.provider) es' p) : Continuous t (t.held s.provider) (es ++ es') p := by
  have reads (m : Moment) (mem : m ∈ es) : ¬ m.Mutates := (quiet.moments m mem).1
  have deleted : deletions (es ++ es') = deletions es' :=
    deletions_append_of_none fun m mem => Moment.deletion?_of_reads (reads m mem)
  obtain ⟨kept, first, removals⟩ := h.removals
  refine ⟨⟨kept, ?_, fun m mem some => ?_⟩, fun m mem => ?_, h.last, fun some => ?_⟩
  · rw [deleted]
    exact first
  · rcases List.mem_append.mp mem with mem | mem
    · exact absurd (Moment.deletion?_of_reads (reads m mem)) some
    · exact removals m mem some
  · rcases List.mem_append.mp mem with mem | mem
    · refine (quiet.moments m mem).2.imp fun p same => ?_
      rw [same]
      exact t.keeps_held s.provider
    · exact h.moments m mem
  · rw [deleted] at some
    rcases h.replaced some with ⟨m, mem, replaced⟩ | ⟨found, unreplaced⟩
    · exact .inl ⟨m, List.mem_append_right _ mem, replaced⟩
    · refine .inr ⟨found, fun m mem => ?_⟩
      rcases List.mem_append.mp mem with mem | mem
      · exact Moment.not_isReplacement_of_reads (reads m mem)
      · exact unreplaced m mem

variable {domain : Domain} {family : Family} {address : Address} {attributes : Attributes}
  {report : Report}

theorem Published.continuous (distinct : s.provider.RecordsDistinct)
    (published : Published domain family address attributes s es report s') :
    s.Quiet es s' ∨ ∃ zone, s.provider.ownerOf domain = .ok zone ∧
      Continuous ⟨zone, domain, family, address, attributes⟩
        (s.provider.recordsOf zone domain.print family) es s'.provider := by
  cases published with
  | idle es stopped s' quiet => exact .inl quiet
  | converged zone es es' outcome stopped s' s'' ofFamily owned quiet run =>
    refine .inr ⟨zone, owned, Continuous.after_quiet quiet ?_⟩
    rw [← quiet.provider] at distinct
    have continuous := ensures_converge_continuous ofFamily distinct _ _ _ run
    rwa [quiet.provider] at continuous

/-- Of a run that publishes an address: the records that it deletes are some of those listed at its
start but one, which has the address whenever a deletion is made; the place is never left without a
record, nor without the address; and where a record had to be found by updating or creating one and
that failed, nothing is deleted. -/
theorem publish_makes_before_breaking (h : s.Coherent) (distinct : s.provider.RecordsDistinct)
    (run : Sync.Runs (publish domain family address attributes) s es report s') :
    (∃ kept,
      deletions es <+: ((s.provider.listing domain family).filter (·.id ≠ kept)).map Record.id ∧
        ∀ zone id reply before after, .called (.deleteRecord zone id) reply before after ∈ es →
          s.provider.ownerOf domain = .ok zone ∧
            ∃ r ∈ before.listing domain family, r.id = kept ∧ r.address = address) ∧
    (s.provider.listing domain family ≠ [] →
      s.Always (fun p => p.listing domain family ≠ []) es s') ∧
    ((∃ r ∈ s.provider.listing domain family, r.address = address) →
      s.Always (fun p => ∃ r ∈ p.listing domain family, r.address = address) es s') ∧
    (deletions es ≠ [] → (∃ m ∈ es, m.IsReplacement ∧ m.Succeeds) ∨
      (∃ r ∈ s.provider.listing domain family, r.address = address) ∧
        ∀ m ∈ es, ¬ m.IsReplacement) := by
  rcases (ensures_publish h es report s' run).continuous distinct with quiet | ⟨zone, owned, all⟩
  · have none (m : Moment) (mem : m ∈ es) : m.deletion? = none :=
      Moment.deletion?_of_reads (quiet.moments m mem).1
    have always (P : Provider → Prop) (first : P s.provider) : s.Always P es s' := by
      refine ⟨first, fun m mem => (quiet.moments m mem).2.imp fun p same => ?_, ?_⟩
      · rwa [same]
      · rwa [quiet.provider]
    refine ⟨⟨"", ?_, fun zone id reply before after mem => ?_⟩, fun some => always _ some,
      fun some => always _ some, fun some => ?_⟩
    · rw [deletions_eq_nil none]
      exact List.nil_prefix
    · cases none _ mem
    · exact absurd (deletions_eq_nil none) some
  · let t : Target := ⟨zone, domain, family, address, attributes⟩
    have listing (p : Provider) (same : p.zones = s.provider.zones) :
        p.listing domain family = t.held p := by
      refine Provider.listing_of_owner family ?_
      exact (Provider.ownerAmong_congr same domain _).trans owned
    have keeps (m : Moment) (mem : m ∈ es) :=
      (run.zones.2 m mem).and (all.moments m mem)
    rw [listing s.provider rfl]
    refine ⟨?_, fun some => ⟨?_, fun m mem => ?_, ?_⟩, fun some => ⟨?_, fun m mem => ?_, ?_⟩,
      all.replaced⟩
    · obtain ⟨kept, first, removals⟩ := all.removals
      refine ⟨kept, first, fun zone id reply before after mem => ?_⟩
      have removal := removals _ mem (Option.some_ne_none id)
      rw [listing before (run.zones.2 _ mem).1]
      cases removal with
      | deletion _ _ _ _ holds _ => exact ⟨owned, holds⟩
    · rwa [listing s.provider rfl]
    · refine (keeps m mem).imp fun p ⟨same, kept⟩ => ?_
      rw [listing p same]
      exact kept.some_record some
    · rw [listing s'.provider run.zones.1]
      exact all.last.some_record some
    · rwa [listing s.provider rfl]
    · refine (keeps m mem).imp fun p ⟨same, kept⟩ => ?_
      rw [listing p same]
      exact kept.some_holder some
    · rw [listing s'.provider run.zones.1]
      exact all.last.some_holder some

def contested : World where
  provider.zones := [⟨"z", "example.com", .active⟩]
  provider.records :=
    [⟨"z", "*.example.com", ⟨"a", .v4 2, {}⟩⟩, ⟨"z", "*.example.com", ⟨"b", .v4 3, {}⟩⟩]
  faults := [⟨.updateRecord, none, none, .http "timeout", false⟩,
    ⟨.deleteRecord, some "a", none, .http "timeout", true⟩]
  caches := .empty 60000

theorem publish_makes_before_breaking_contested : ∃ es s', ∃ report : Report,
    Sync.Runs (publish (.wildcard "example.com") .v4 (.v4 1) {}) contested.scene es report s' ∧
      contested.scene.Always (fun p => p.listing (.wildcard "example.com") .v4 ≠ []) es s' ∧
        s'.provider.listing (.wildcard "example.com") .v4 = [⟨"rec-1", .v4 1, {}⟩] := by
  have undisturbed : contested.Undisturbed := rfl
  obtain ⟨es, run⟩ := World.runs_run
    (publish (.wildcard "example.com") .v4 (.v4 1) {}) undisturbed
  have distinct : contested.scene.provider.RecordsDistinct := by decide
  have some : contested.scene.provider.listing (.wildcard "example.com") .v4 ≠ [] := by decide
  obtain ⟨_, always, _⟩ := publish_makes_before_breaking Scene.coherentOn_empty distinct run
  exact ⟨es, _, _, run, always some, by decide⟩

end Reconcile

end AddressSync
