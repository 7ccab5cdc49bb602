import AddressSync.Proofs.Reconcile.Choice
import AddressSync.Proofs.Surroundings.Simulated

/-! What the outcome of publishing an address says of the provider: work that counts as done leaves
one record with the address, which is the only one of its place unless the work was stopped, and
work that counts as nothing to do made no change. -/

namespace AddressSync.Reconcile

open Sync Simulation Directory

variable {t : Target} {kept id : String} {progress : Progress} {rest records : List Record}
  {record : Record} {p p' : Provider} {s s' : Scene} {es : List Moment}

theorem Target.held_delete (t : Target) (id : String) (p : Provider) :
    t.held (p.perform (t.delete id)).2 = (t.held p).filter (·.id ≠ id) :=
  Provider.recordsOf_deleteRecord

theorem Target.Holds.ends_delete {reply : Except Failure Unit} (h : t.Holds kept p)
    (other : id ≠ kept) (ends : p.Ends (t.delete id) reply p') : t.Holds kept p' := by
  refine ends.preserves h ?_
  obtain ⟨r, mem, same, address⟩ := h
  refine ⟨r, ?_, same, address⟩
  rw [t.held_delete]
  refine List.mem_filter.mpr ⟨mem, decide_eq_true ?_⟩
  rw [same]
  exact Ne.symm other

/-- What is known between two deletions. As long as no call failed, one record has the identifier
of the one that stays, and all others are still to be deleted. -/
structure Narrowed (t : Target) (kept : String) (progress : Progress) (rest : List Record)
    (p : Provider) : Prop where
  holds : t.Holds kept p
  others : ∀ r ∈ rest, r.id ≠ kept
  distinct : (rest.map Record.id).Nodup
  left : progress.failed = false → (t.held p).filter (·.id ≠ kept) = rest
  single : progress.failed = false → ∃ r, (t.held p).filter (·.id = kept) = [r]

theorem Narrowed.deleted (h : Narrowed t kept progress (record :: rest) p)
    (ends : p.Ends (t.delete record.id) (.ok ()) p') :
    Narrowed t kept { progress with changed := true } rest p' := by
  have other : record.id ≠ kept := h.others record List.mem_cons_self
  have distinct := (List.nodup_cons.mp h.distinct).2
  have heldAfter : t.held p' = (t.held p).filter (·.id ≠ record.id) := by
    rw [ends.of_ok.2, t.held_delete]
  refine ⟨h.holds.ends_delete other ends, ?_, distinct, fun clean => ?_, fun clean => ?_⟩
  · exact fun r mem => h.others r (List.mem_cons_of_mem _ mem)
  · rw [heldAfter, List.filter_comm, h.left clean]
    exact Provider.filter_cons_of_nodup h.distinct
  · obtain ⟨r, one⟩ := h.single clean
    refine ⟨r, ?_⟩
    rw [heldAfter, List.filter_comm, one]
    have same : r.id = kept := by
      have mem : r ∈ (t.held p).filter (·.id = kept) := by rw [one]; exact List.mem_singleton_self r
      exact of_decide_eq_true (List.mem_filter.mp mem).2
    refine List.filter_cons_of_pos (decide_eq_true ?_)
    rw [same]
    exact Ne.symm other

theorem Narrowed.refused {e : Failure} (h : Narrowed t kept progress (record :: rest) p)
    (ends : p.Ends (t.delete record.id) (.error e) p') :
    Narrowed t kept { progress with failed := true } rest p' where
  holds := h.holds.ends_delete (h.others record List.mem_cons_self) ends
  others r mem := h.others r (List.mem_cons_of_mem _ mem)
  distinct := (List.nodup_cons.mp h.distinct).2
  left clean := nomatch clean
  single clean := nomatch clean

theorem filter_id_of_mem (distinct : (records.map Record.id).Nodup) (mem : record ∈ records) :
    records.filter (·.id = record.id) = [record] := by
  induction records with
  | nil => cases mem
  | cons r rest ih =>
    obtain ⟨new, distinct⟩ := List.nodup_cons.mp distinct
    rcases List.mem_cons.mp mem with rfl | mem
    · have none : rest.filter (·.id = record.id) = [] := by
        refine List.filter_eq_nil_iff.mpr fun r mem same => new ?_
        exact List.mem_map.mpr ⟨r, mem, of_decide_eq_true same⟩
      rw [List.filter_cons_of_pos (by simp), none]
    · have other : r.id ≠ record.id := by
        intro same
        rw [same] at new
        exact new (List.mem_map_of_mem mem)
      rw [List.filter_cons_of_neg (by simpa using other)]
      exact ih distinct mem

theorem filter_map_readdress (test : String → Bool) {address : Address} :
    (records.map (readdress id address)).filter (fun r => test r.id) =
      (records.filter fun r => test r.id).map (readdress id address) := by
  rw [List.filter_map]
  refine congrArg _ (List.filter_congr fun r _ => ?_)
  rw [Function.comp_apply, Provider.readdress_id]

theorem Target.held_create (t : Target) (ofFamily : t.address.family = t.family) (p : Provider)
    (ends : p.Ends t.create (.ok record) p') :
    t.held p' = t.held p ++ [record] ∧ record.address = t.address := by
  obtain ⟨made, rfl⟩ := ends.of_ok
  cases made
  refine ⟨?_, rfl⟩
  rw [Target.held, Provider.recordsOf_createRecord, if_pos ⟨rfl, rfl, ofFamily⟩]
  rfl

theorem Target.held_update (t : Target) (ofFamily : t.address.family = t.family)
    (distinct : p.RecordsDistinct) (mem : record ∈ t.held p)
    (ends : p.Ends (t.update record.id) (.ok ()) p') :
    t.held p' = (t.held p).map (readdress record.id t.address) := by
  have within := distinct.recordWithin mem
  rw [← ofFamily] at within
  rw [ends.of_ok.2]
  exact Provider.recordsOf_updateRecord distinct within

theorem Settled.narrowed (ofFamily : t.address.family = t.family)
    (distinct : s.provider.RecordsDistinct)
    (settled : Settled t s (t.held s.provider) es (some kept) progress s') :
    Narrowed t kept progress ((t.held s.provider).filter (·.id ≠ kept)) s'.provider := by
  have ids : ((t.held s.provider).map Record.id).Nodup := Provider.recordsOf_nodup distinct
  have others (kept : String) : ∀ r ∈ (t.held s.provider).filter (·.id ≠ kept), r.id ≠ kept :=
    fun r mem => of_decide_eq_true (List.mem_filter.mp mem).2
  have unique (kept : String) : (((t.held s.provider).filter (·.id ≠ kept)).map Record.id).Nodup :=
    ids.sublist (List.Sublist.map _ List.filter_sublist)
  generalize start : t.held s.provider = records at settled ids others unique
  cases settled with
  | found _ r _ first same =>
    have mem := List.mem_of_find?_eq_some first
    have address := List.find?_some first
    have held : t.held s'.provider = records := by rw [same, start]
    refine ⟨?_, others _, unique _, fun _ => by rw [held], fun _ => ⟨r, ?_⟩⟩
    · refine ⟨r, ?_, rfl, of_decide_eq_true address⟩
      rwa [held]
    · rw [held]
      exact filter_id_of_mem ids mem
  | repointed stale rest _ absent ends =>
    have mem : stale ∈ t.held s.provider := by
      rw [start]
      exact List.mem_cons_self
    have held := t.held_update ofFamily distinct mem ends
    rw [start] at held mem
    refine ⟨?_, others _, unique _, fun _ => ?_, fun _ => ⟨readdress stale.id t.address stale, ?_⟩⟩
    · refine ⟨readdress stale.id t.address stale, ?_, Provider.readdress_id _, ?_⟩
      · rw [held]
        exact List.mem_map_of_mem mem
      · rw [readdress, if_pos rfl]
    · rw [held, filter_map_readdress fun id => decide (id ≠ stale.id)]
      exact Provider.map_readdress_of_absent (others _)
    · rw [held, filter_map_readdress fun id => decide (id = stale.id), filter_id_of_mem ids mem]
      rfl
  | replaced stale rest e p r _ absent refused ends =>
    obtain ⟨held, address⟩ := t.held_create ofFamily p ends
    refine ⟨⟨r, ?_, rfl, address⟩, others _, unique _, fun clean => ?_, fun clean => ?_⟩
    · rw [held]
      exact List.mem_append_right _ (List.mem_singleton_self r)
    · cases clean
    · cases clean
  | created r _ ends =>
    obtain ⟨held, address⟩ := t.held_create ofFamily _ ends
    rw [start, List.nil_append] at held
    refine ⟨⟨r, ?_, rfl, address⟩, others _, unique _, fun _ => ?_, fun _ => ⟨r, ?_⟩⟩
    · rw [held]
      exact List.mem_singleton_self r
    · rw [held, List.filter_cons_of_neg (by simp)]
    · rw [held, List.filter_cons_of_pos (by simp), List.filter_nil]

/-- What an outcome tells of the place: nothing if the work failed, and else that one record has
the address, and that there is no other unless the work was stopped. -/
def Target.Converged (t : Target) (outcome : Outcome) (stopped : Bool) (p : Provider) : Prop :=
  outcome = .updated ∨ outcome = .unchanged → ∃ r,
    (t.held p).filter (·.address = t.address) = [r] ∧ (stopped = false → t.held p = [r])

theorem Narrowed.holds_single (h : Narrowed t kept progress rest p)
    (clean : progress.failed = false) :
    ∃ r, (t.held p).filter (·.id = kept) = [r] ∧ r.address = t.address := by
  obtain ⟨r, one⟩ := h.single clean
  obtain ⟨r', mem, same, address⟩ := h.holds
  refine ⟨r, one, ?_⟩
  have only : r' ∈ (t.held p).filter (·.id = kept) :=
    List.mem_filter.mpr ⟨mem, decide_eq_true same⟩
  rw [one, List.mem_singleton] at only
  rwa [← only]

theorem Narrowed.converged (h : Narrowed t kept progress [] p) :
    t.Converged progress.outcome false p := by
  intro done
  have clean : progress.failed = false := by
    cases failed : progress.failed with
    | false => rfl
    | true => simp [Progress.outcome, failed] at done
  obtain ⟨r, one, address⟩ := h.holds_single clean
  have alone : t.held p = [r] := by
    have all : ∀ r ∈ t.held p, r.id = kept := by
      simpa using List.filter_eq_nil_iff.mp (h.left clean)
    rw [← one]
    exact (List.filter_eq_self.mpr fun r mem => decide_eq_true (all r mem)).symm
  refine ⟨r, ?_, fun _ => alone⟩
  rw [alone, List.filter_cons_of_pos (by simpa using address), List.filter_nil]

/-- Where none of the records left to delete has the address, the record that stays is the only
one with it. -/
theorem Narrowed.converged_of_stopped (h : Narrowed t kept progress rest p)
    (clean : progress.failed = false) (absent : ∀ r ∈ rest, r.address ≠ t.address)
    (outcome : Outcome) : t.Converged outcome true p := by
  intro _
  obtain ⟨r, one, address⟩ := h.holds_single clean
  refine ⟨r, ?_, (nomatch ·)⟩
  have holders : (t.held p).filter (·.address = t.address) =
      ((t.held p).filter (·.id = kept)).filter (·.address = t.address) := by
    rw [List.filter_filter]
    refine List.filter_congr fun r mem => ?_
    by_cases here : r.address = t.address
    · have same : r.id = kept := by
        by_contra other
        refine absent r ?_ here
        rw [← h.left clean]
        exact List.mem_filter.mpr ⟨mem, decide_eq_true other⟩
      simp [here, same]
    · simp [here]
  rw [holders, one, List.filter_cons_of_pos (by simpa using address), List.filter_nil]

theorem ensures_removeRest_converged (h : Narrowed t kept progress rest s.provider) :
    Sync.Ensures (removeRest t progress rest) s fun es result s' =>
      t.Converged result.1 result.2 s'.provider ∧
        (result.1 = .unchanged → progress = {} ∧ es = []) := by
  induction rest generalizing progress s with
  | nil =>
    refine Program.ensures_pure_iff.mpr ⟨h.converged, fun unchanged => ⟨?_, rfl⟩⟩
    obtain ⟨changed, failed⟩ := progress
    revert unchanged
    cases changed <;> cases failed <;> decide
  | cons record rest ih =>
    refine ensures_stopRequested_iff.mpr fun stop => ?_
    cases stop with
    | true =>
      refine ensures_log_iff.mpr (Program.ensures_pure_iff.mpr ⟨?_, ?_⟩)
      · split
        · next converged =>
          obtain ⟨clean, absent⟩ := Bool.and_eq_true_iff.mp converged
          refine h.converged_of_stopped (by simpa using clean) ?_ _
          simpa using absent
        · rintro (done | done) <;> cases done
      · split <;> exact (nomatch ·)
    | false =>
      refine (ensures_change s).bind fun es reply s' change => ?_
      cases reply with
      | ok x =>
        refine ensures_log_iff.mpr ((ih (h.deleted change.ends)).mono ?_)
        rintro es' result s'' ⟨converged, unchanged⟩
        exact ⟨converged, fun same => nomatch congrArg Progress.changed (unchanged same).1⟩
      | error e =>
        refine ensures_log_iff.mpr ((ih (h.refused change.ends)).mono ?_)
        rintro es' result s'' ⟨converged, unchanged⟩
        exact ⟨converged, fun same => nomatch congrArg Progress.failed (unchanged same).1⟩

theorem ensures_converge_converged (ofFamily : t.address.family = t.family)
    (distinct : s.provider.RecordsDistinct) :
    Sync.Ensures (converge t (t.held s.provider)) s fun es result s' =>
      t.Converged result.1 result.2 s'.provider ∧ (result.1 = .unchanged → ∀ m ∈ es, ¬ m.Mutates) := by
  refine (ensures_settle t (t.held s.provider) s).bind ?_
  rintro es ⟨kept?, progress⟩ s' settled
  cases kept? with
  | none =>
    refine Program.ensures_pure_iff.mpr ⟨?_, fun same => nomatch same⟩
    rintro (done | done) <;> cases done
  | some kept =>
    have narrowed := settled.narrowed ofFamily distinct
    refine (ensures_removeRest_converged narrowed).bind ?_
    rintro es' ⟨outcome, stopped⟩ s'' ⟨converged, unchanged⟩
    refine Silent.ensures_guard (silent_log _ _ _) (Program.ensures_pure_iff.mpr ⟨converged, ?_⟩)
    intro same
    obtain ⟨untouched, rfl⟩ := unchanged same
    generalize t.held s.provider = records at settled
    cases settled with
    | found => exact fun m mem => absurd mem List.not_mem_nil
    | repointed | replaced | created => cases untouched

variable {domain : Domain} {family : Family} {address : Address} {attributes : Attributes}
  {report : Report}

/-- A run that reports success leaves exactly one record with the address where it belongs, and no
other record there unless it was stopped. One that reports that nothing changed made no change. -/
theorem publish_outcome (h : s.Coherent) (distinct : s.provider.RecordsDistinct)
    (run : Sync.Runs (publish domain family address attributes) s es report s') :
    (report.outcome = .updated ∨ report.outcome = .unchanged →
      ∃ r, (s'.provider.listing domain family).filter (·.address = address) = [r] ∧
        (report.stopped = false → s'.provider.listing domain family = [r])) ∧
    (report.outcome = .unchanged → ∀ m ∈ es, ¬ m.Mutates) := by
  have owner := run.ownerOf domain
  cases ensures_publish h es report s' run with
  | idle es stopped s' quiet =>
    refine ⟨fun done => ?_, fun same => nomatch same⟩
    rcases done with done | done <;> cases done
  | converged zone es es' outcome stopped s' s'' ofFamily owned quiet run =>
    rw [← quiet.provider] at distinct
    obtain ⟨converged, unchanged⟩ := ensures_converge_converged ofFamily distinct _ _ _ run
    refine ⟨fun done => ?_, fun same m mem => ?_⟩
    · rw [← owner] at owned
      rw [Provider.listing_of_owner family owned]
      exact converged done
    · rcases List.mem_append.mp mem with mem | mem
      · exact (quiet.moments m mem).1
      · exact unchanged same m mem

def crowded : World where
  provider.zones := [⟨"z", "example.com", .active⟩]
  provider.records := [⟨"z", "www.example.com", ⟨"a", .v4 1, {}⟩⟩,
    ⟨"z", "www.example.com", ⟨"b", .v4 1, {}⟩⟩, ⟨"z", "www.example.com", ⟨"c", .v4 2, {}⟩⟩]
  caches := .empty 60000
  stop.mutations := some 1

theorem publish_outcome_crowded : ∃ es s', ∃ report : Report,
    Sync.Runs (publish (.plain "www.example.com") .v4 (.v4 1) {}) crowded.scene es report s' ∧
      report.outcome = .updated ∧ report.stopped = true ∧
        ∃ r, (s'.provider.listing (.plain "www.example.com") .v4).filter (·.address = .v4 1) = [r] := by
  have undisturbed : crowded.Undisturbed := rfl
  obtain ⟨es, run⟩ := World.runs_run
    (publish (.plain "www.example.com") .v4 (.v4 1) {}) undisturbed
  have updated : (crowded.run (publish (.plain "www.example.com") .v4 (.v4 1) {})).1 =
      ⟨.records "www.example.com" .v4, .updated, true⟩ := by decide
  rw [updated] at run
  have distinct : crowded.scene.provider.RecordsDistinct := by decide
  obtain ⟨r, one, _⟩ := (publish_outcome Scene.coherentOn_empty distinct run).1 (.inl rfl)
  exact ⟨es, _, _, run, rfl, rfl, r, one⟩

end AddressSync.Reconcile
