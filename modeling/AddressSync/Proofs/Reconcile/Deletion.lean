import AddressSync.Proofs.Provider.Without
import AddressSync.Proofs.Reconcile.Continuity

/-! What withdrawing the records of a place asks for and what becomes of the provider, whichever
deletions fail, with or without effect, and whenever the work is asked to stop. -/

namespace AddressSync

open Sync Simulation Directory

/-- The record that a deletion was about and that is not there after it, whether or not the call
failed. -/
def Moment.gone? : Moment → Option String
  | .called (.deleteRecord _ id) _ _ after =>
    if after.records.all (·.record.id ≠ id) then some id else none
  | _ => none

def gone (es : List Moment) : List String := es.filterMap Moment.gone?

variable {s s' s'' : Scene} {es es' : List Moment} {p p' : Provider} {zone id : String}

theorem gone_deletion (zone id : String) (reply : Except Failure Unit) (p p' : Provider) :
    gone [.called (.deleteRecord zone id) reply p p'] =
      if p'.records.all (·.record.id ≠ id) then [id] else [] := by
  rw [gone, List.filterMap_cons, List.filterMap_nil, Moment.gone?]
  by_cases taken : p'.records.all (·.record.id ≠ id)
  · rw [if_pos taken, if_pos taken]
  · rw [if_neg taken, if_neg taken]

theorem Simulation.Provider.Ends.without_gone {reply : Except Failure Unit}
    (ends : p.Ends (.deleteRecord zone id) reply p') :
    p' = p.without (gone [.called (.deleteRecord zone id) reply p p']) := by
  rw [gone_deletion]
  split
  · next all =>
    have absent : ∀ r ∈ p'.records, r.record.id ≠ id := by simpa using all
    rcases ends.either with rfl | same
    · exact (Provider.without_of_absent absent).symm
    · rw [same, Provider.perform_deleteRecord]
  · next there =>
    rcases ends.either with rfl | same
    · exact (Provider.without_nil _).symm
    · refine absurd ?_ there
      rw [same, Provider.perform_deleteRecord]
      simp [Provider.without]

theorem Simulation.Provider.Ends.gone_of_ok (ends : p.Ends (.deleteRecord zone id) (.ok ()) p') :
    gone [.called (.deleteRecord zone id) (.ok ()) p p'] = [id] := by
  rw [gone_deletion, if_pos]
  rw [ends.of_ok.2, Provider.perform_deleteRecord]
  simp [Provider.without]

namespace Directory

open Scene

theorem ensures_owner_reads (domain : Domain) (s : Scene) :
    Sync.Ensures (owner domain) s fun es _ s' =>
      s.Quiet es s' ∧ s'.caches.records = s.caches.records := by
  have zones (name : String) (s : Scene) : Sync.Ensures (zones name) s fun es _ s' =>
      s.Quiet es s' ∧ s'.caches.records = s.caches.records := by
    have fetches : Sync.Ensures (zones name) s (s.Fetches (fun _ => True)
        fun zones now c => { c with zones := c.zones.set now name zones }) :=
      ensures_fetch rfl (silent_log _ _ _) (fun _ _ _ _ => trivial) fun _ _ => trivial
    refine fetches.mono fun es reply s' fetched => ⟨fetched.quiet, ?_⟩
    rcases fetched.caches with same | ⟨_, _, same⟩
    · rw [same]
    · rw [same]
  have among (names : List String) (s : Scene) : Sync.Ensures (ownerAmong domain names) s
      fun es _ s' => s.Quiet es s' ∧ s'.caches.records = s.caches.records := by
    induction names generalizing s with
    | nil => exact Program.ensures_pure_iff.mpr ⟨quiet_pass (Nat.le_refl _), rfl⟩
    | cons name rest ih =>
      refine (zones name s).bind fun es reply s' ⟨quiet, same⟩ => ?_
      cases reply with
      | error e =>
        refine Program.ensures_pure_iff.mpr ?_
        rw [List.append_nil]
        exact ⟨quiet, same⟩
      | ok found =>
        refine (silent_forM (silent_remark name) _).ensures_bind ?_
        split
        · exact (ih s').mono fun es' reply s'' ⟨quiet', same'⟩ =>
            ⟨quiet.trans quiet', same'.trans same⟩
        · refine ensures_log_iff.mpr (ensures_revise_iff.mpr fun t later => ?_)
          exact Program.ensures_pure_iff.mpr ⟨quiet.trans (quiet_pass later), same⟩
        · refine Program.ensures_pure_iff.mpr ?_
          rw [List.append_nil]
          exact ⟨quiet, same⟩
  refine ensures_look_iff.mpr fun t later => ?_
  dsimp only
  split
  · exact ensures_log_iff.mpr (Program.ensures_pure_iff.mpr ⟨quiet_pass later, rfl⟩)
  · refine (among _ _).mono fun es reply s' ⟨quiet, same⟩ => ⟨?_, same⟩
    exact (quiet_pass later).trans quiet

end Directory

namespace Reconcile

open Scene

variable {domain : Domain} {family : Family} {last failed : Bool} {total deleted : Nat}
  {record : Record} {rest : List Record} {result : Outcome × Bool}

theorem ensures_locate_reads
    (said : last = false → ∀ zone, s.RecordsTrue ⟨zone, domain, family⟩) :
    Sync.Ensures (locate domain family last) s fun es found s' => s.Quiet es s' ∧
      ∀ zone records, found = some (zone, records) →
        records = s.provider.recordsOf zone domain.print family := by
  refine (ensures_owner_reads domain s).bind fun es reply s' ⟨quiet, same⟩ => ?_
  cases reply with
  | error e =>
    refine (silent_logIntegrity _ _ _ e).ensures_bind (Program.ensures_pure_iff.mpr ?_)
    rw [List.append_nil]
    exact ⟨quiet, nofun⟩
  | ok zone =>
    have rest (s₁ : Scene) (quiet : s.Quiet es s₁) (said : s₁.RecordsTrue ⟨zone, domain, family⟩) :
        Sync.Ensures (listed zone domain family) s₁ fun es' found s' => s.Quiet (es ++ es') s' ∧
          ∀ zone records, found = some (zone, records) →
            records = s.provider.recordsOf zone domain.print family := by
      refine (ensures_listed said).mono fun es' found s' ⟨quiet', _, live⟩ => ?_
      refine ⟨quiet.trans quiet', fun zone' records some => ?_⟩
      rw [quiet.provider] at live
      rcases live with rfl | ⟨rfl, _⟩
      · cases some
        rfl
      · cases some
    cases last with
    | true =>
      refine ensures_revise_iff.mpr fun t later => ?_
      refine rest _ (by simpa using quiet.trans (quiet_pass later)) ?_
      intro t' records later' found
      exact absurd found (by simp [dropRecords, Cache.get?_erase])
    | false =>
      refine rest s' quiet ((said rfl zone).frame quiet.later quiet.provider same)

/-- What comes of deleting the records one after the other: they are asked for in their order, up to
where the work is stopped, and what the provider has lost in the end is what these deletions took
away. -/
structure Sweeps (zone : String) (failed : Bool) (rest : List Record) (s : Scene) (es : List Moment)
    (result : Outcome × Bool) (s' : Scene) : Prop where
  inOrder : deletions es <+: rest.map Record.id
  complete : result.2 = false → deletions es = rest.map Record.id
  only : ∀ m ∈ es, m.Mutates →
    ∃ id reply before after, m = .called (.deleteRecord zone id) reply before after
  after : s'.provider = s.provider.without (gone es)
  effective : (∀ m ∈ es, ¬ m.Fails) → gone es = deletions es
  decided : result.1 = .updated ∨ result.1 = .failed
  updated : result.2 = false → failed = false → (∀ m ∈ es, ¬ m.Fails) → result.1 = .updated
  failed : failed = true ∨ (∃ m ∈ es, m.Fails) → result.1 = .failed

theorem sweeps_nil :
    Sweeps zone failed [] s [] (if failed then .failed else .updated, false) s where
  inOrder := List.prefix_refl _
  complete _ := rfl
  only := List.forall_mem_nil _
  after := (Provider.without_nil _).symm
  effective _ := rfl
  decided := by cases failed <;> simp
  updated _ clean _ := by rw [clean]; rfl
  failed some := by
    rcases some with rfl | ⟨m, mem, _⟩
    · rfl
    · cases mem

theorem sweeps_stopped (decided : result.1 = .updated ∧ failed = false ∨ result.1 = .failed)
    (stopped : result.2 = true) : Sweeps zone failed rest s [.stopAsked true] result s where
  inOrder := List.nil_prefix
  complete running := nomatch running.symm.trans stopped
  only := List.forall_mem_singleton.mpr nofun
  after := (Provider.without_nil _).symm
  effective _ := rfl
  decided := decided.imp_left And.left
  updated running := nomatch running.symm.trans stopped
  failed some := by
    rcases some with rfl | ⟨m, mem, fails⟩
    · exact decided.resolve_left nofun
    · rw [List.mem_singleton.mp mem] at fails
      cases fails

theorem Sweeps.cons {reply : Except Failure Unit}
    (ends : s.provider.Ends (.deleteRecord zone record.id) reply s'.provider)
    (h : Sweeps zone (!reply.isOk || failed) rest s' es result s'') :
    Sweeps zone failed (record :: rest) s (.stopAsked false ::
      ([.called (.deleteRecord zone record.id) reply s.provider s'.provider] ++ es)) result s'' := by
  have asked : deletions (.stopAsked false ::
      ([.called (.deleteRecord zone record.id) reply s.provider s'.provider] ++ es)) =
        record.id :: deletions es := rfl
  have taken : gone (.stopAsked false ::
      ([.called (.deleteRecord zone record.id) reply s.provider s'.provider] ++ es)) =
        gone [.called (.deleteRecord zone record.id) reply s.provider s'.provider] ++ gone es :=
    List.filterMap_append
  refine ⟨?_, fun running => ?_, ?_, ?_, fun smooth => ?_, h.decided,
    fun running clean smooth => ?_, ?_⟩
  · rw [asked, List.map_cons]
    exact (List.prefix_cons_inj record.id).mpr h.inOrder
  · rw [asked, h.complete running, List.map_cons]
  · refine List.forall_mem_cons.mpr ⟨nofun, List.forall_mem_cons.mpr ⟨fun _ => ?_, h.only⟩⟩
    exact ⟨_, _, _, _, rfl⟩
  · calc s''.provider = s'.provider.without (gone es) := h.after
      _ = (s.provider.without _).without (gone es) := by rw [← ends.without_gone]
      _ = s.provider.without _ := by rw [Provider.without_without, taken]
  · obtain ⟨here, later⟩ := List.forall_mem_cons.mp (List.forall_mem_cons.mp smooth).2
    cases reply with
    | error e => exact absurd rfl here
    | ok x => rw [asked, taken, ends.gone_of_ok, h.effective later, List.singleton_append]
  · obtain ⟨here, later⟩ := List.forall_mem_cons.mp (List.forall_mem_cons.mp smooth).2
    cases reply with
    | error e => exact absurd rfl here
    | ok x => exact h.updated running clean later
  · intro some
    refine h.failed ?_
    cases reply with
    | error e => exact .inl rfl
    | ok x =>
      refine some.imp_right fun ⟨m, mem, fails⟩ => ?_
      rcases List.mem_cons.mp mem with rfl | mem
      · cases fails
      · rcases List.mem_cons.mp mem with rfl | mem
        · cases fails
        · exact ⟨m, mem, fails⟩

theorem ensures_removeEach_sweeps (zone : String) (domain : Domain) (family : Family) (last : Bool)
    (total deleted : Nat) (failed : Bool) (rest : List Record) (s : Scene) :
    Sync.Ensures (removeEach zone domain family last total deleted failed rest) s
      (Sweeps zone failed rest s) := by
  induction rest generalizing deleted failed s with
  | nil => exact Program.ensures_pure_iff.mpr sweeps_nil
  | cons record rest ih =>
    refine ensures_stopRequested_iff.mpr fun stop => ?_
    cases stop with
    | true =>
      refine ensures_log_iff.mpr (Program.ensures_pure_iff.mpr (sweeps_stopped ?_ rfl))
      by_cases done : (0 < deleted && !failed) = true
      · exact .inl ⟨if_pos done, by simpa using (Bool.and_eq_true_iff.mp done).2⟩
      · exact .inr (if_neg done)
    | false =>
      refine (ensures_change s).bind fun es reply s' change => ?_
      have moments := change.moments
      have ends := change.ends
      subst moments
      cases reply with
      | ok x =>
        exact ensures_log_iff.mpr ((ih _ _ s').mono fun es' result s'' later => later.cons ends)
      | error e =>
        exact ensures_log_iff.mpr ((ih _ _ s').mono fun es' result s'' later => later.cons ends)

structure Withdrawal (zone : String) (domain : Domain) (family : Family) (p : Provider)
    (es : List Moment) (report : Report) (p' : Provider) : Prop where
  inOrder : deletions es <+: (p.recordsOf zone domain.print family).map Record.id
  once : ((p.recordsOf zone domain.print family).map Record.id).Nodup → (deletions es).Nodup
  complete : report.stopped = false →
    deletions es = (p.recordsOf zone domain.print family).map Record.id
  only : ∀ m ∈ es, m.Mutates →
    ∃ id reply before after, m = .called (.deleteRecord zone id) reply before after
  after : p' = p.without (gone es)
  noop : report.outcome = .unchanged ↔ p.recordsOf zone domain.print family = []
  untouched : p.recordsOf zone domain.print family = [] → ∀ m ∈ es, ¬ m.Mutates
  updated : report.stopped = false → (report.outcome = .updated ↔
    p.recordsOf zone domain.print family ≠ [] ∧ ∀ m ∈ es, ¬ m.Fails)
  emptied : report.stopped = false → report.outcome = .updated →
    p'.recordsOf zone domain.print family = []
  failed : (∃ m ∈ es, m.Fails) → report.outcome = .failed

theorem withdrawal_of_empty {subject : Subject}
    (empty : p.recordsOf zone domain.print family = []) :
    Withdrawal zone domain family p [] ⟨subject, .unchanged, false⟩ p where
  inOrder := List.nil_prefix
  once _ := List.nodup_nil
  complete _ := by rw [empty]; rfl
  only := List.forall_mem_nil _
  after := (Provider.without_nil p).symm
  noop := iff_of_true rfl empty
  untouched _ := List.forall_mem_nil _
  updated _ := iff_of_false nofun fun some => some.1 empty
  emptied _ := nofun
  failed := fun ⟨_, mem, _⟩ => nomatch mem

theorem Sweeps.withdrawal {subject : Subject}
    (h : Sweeps zone false (s.provider.recordsOf zone domain.print family) s es result s')
    (some : s.provider.recordsOf zone domain.print family ≠ []) :
    Withdrawal zone domain family s.provider es ⟨subject, result.1, result.2⟩ s'.provider := by
  have failed (fails : ∃ m ∈ es, m.Fails) : result.1 = .failed := h.failed (.inr fails)
  have smooth (updated : result.1 = .updated) : ∀ m ∈ es, ¬ m.Fails := by
    intro m mem fails
    cases updated.symm.trans (failed ⟨m, mem, fails⟩)
  refine ⟨h.inOrder, fun distinct => distinct.sublist h.inOrder.sublist, h.complete, h.only,
    h.after, iff_of_false (fun same => ?_) some, fun empty => absurd empty some, fun running => ?_,
    fun running updated => ?_, failed⟩
  · rcases h.decided with updated | failed
    · cases same.symm.trans updated
    · cases same.symm.trans failed
  · exact ⟨fun updated => ⟨some, smooth updated⟩, fun all => h.updated running rfl all.2⟩
  · rw [h.after, h.effective (smooth updated), h.complete running, Provider.recordsOf_without]
    refine List.filter_eq_nil_iff.mpr fun r mem => ?_
    simpa using ⟨r, mem, rfl⟩

/-- The ways in which a withdrawal ends: it is stopped at once, or the zone or its listing cannot be
read, or the records that the provider lists were deleted as far as the withdrawal came. -/
inductive Withdrawn (domain : Domain) (family : Family) (last : Bool) (s : Scene) :
    List Moment → Report → Scene → Prop
  | stopped : Withdrawn domain family last s [.stopAsked true]
      ⟨.records domain.print family, .failed, true⟩ s
  | unlisted (es : List Moment) (s' : Scene) (quiet : s.Quiet es s')
    (missed : Sync.Runs (locate domain family last) s es none s') :
    Withdrawn domain family last s (.stopAsked false :: es)
      ⟨.records domain.print family, .failed, false⟩ s'
  | listed (zone : String) (es es' : List Moment) (outcome : Outcome) (stopped : Bool)
    (s₁ s' : Scene) (quiet : s.Quiet es s₁)
    (located : Sync.Runs (locate domain family last) s es
      (some (zone, s.provider.recordsOf zone domain.print family)) s₁)
    (withdrawal : Withdrawal zone domain family s.provider es'
      ⟨.records domain.print family, outcome, stopped⟩ s'.provider) :
    Withdrawn domain family last s (.stopAsked false :: (es ++ es'))
      ⟨.records domain.print family, outcome, stopped⟩ s'

theorem ensures_withdraw_deletes
    (said : last = false → ∀ zone, s.RecordsTrue ⟨zone, domain, family⟩) :
    Sync.Ensures (withdraw domain family last) s (Withdrawn domain family last s) := by
  refine ensures_stopRequested_iff.mpr fun stop => ?_
  cases stop with
  | true => exact Program.ensures_pure_iff.mpr .stopped
  | false =>
    refine ((ensures_locate_reads said).and Program.ensures_runs).bind
      fun es found s₁ ⟨⟨quiet, live⟩, located⟩ => ?_
    cases found with
    | none =>
      refine Program.ensures_pure_iff.mpr ?_
      rw [List.append_nil]
      exact .unlisted es s₁ quiet located
    | some found =>
      obtain ⟨zone, records⟩ := found
      have listing := live zone records rfl
      rw [listing] at located
      rw [← quiet.provider] at listing
      cases records with
      | nil =>
        refine ensures_log_iff.mpr (Program.ensures_pure_iff.mpr ?_)
        refine .listed zone es [] _ _ s₁ s₁ quiet located ?_
        rw [← quiet.provider]
        exact withdrawal_of_empty listing.symm
      | cons record rest =>
        refine (ensures_removeEach_sweeps zone domain family last _ 0 false _ s₁).bind
          fun es' result s' sweeps => ?_
        refine Program.ensures_pure_iff.mpr ?_
        rw [List.append_nil]
        refine .listed zone es es' _ _ s₁ s' quiet located ?_
        rw [← quiet.provider]
        rw [listing] at sweeps
        exact sweeps.withdrawal (by rw [← listing]; exact List.cons_ne_nil record rest)

/-- Withdrawing deletes what the provider lists, in this order and as far as it comes, and takes away
nothing but what these deletions take away, whichever of them fail; one that came to its end says that
it is done if none failed. The last time, this holds whatever is cached of the place. -/
theorem withdraw_deletes {report : Report}
    (said : last = false → ∀ zone, s.RecordsTrue ⟨zone, domain, family⟩)
    (run : Sync.Runs (withdraw domain family last) s es report s') :
    Withdrawn domain family last s es report s' :=
  ensures_withdraw_deletes said es report s' run

def haunted : World where
  provider.zones := [⟨"z", "example.com", .active⟩]
  provider.records := [⟨"z", "www.example.com", ⟨"a", .v4 1, {}⟩⟩,
    ⟨"z", "mail.example.com", ⟨"m", .v4 1, {}⟩⟩, ⟨"z", "www.example.com", ⟨"b", .v4 2, {}⟩⟩]
  faults := [⟨.deleteRecord, none, some 1, .http "timeout", true⟩]
  caches := { Caches.empty 60000 with
    records := ⟨60000, [⟨⟨"z", .plain "www.example.com", .v4⟩, [⟨"ghost", .v4 3, {}⟩], 60000⟩]⟩ }

theorem withdraw_deletes_haunted : ∃ es s',
    Sync.Runs (withdraw (.plain "www.example.com") .v4 true) haunted.scene es
      ⟨.records "www.example.com" .v4, .failed, false⟩ s' ∧
    ∃ zone es', deletions es' =
        (haunted.provider.recordsOf zone "www.example.com" .v4).map Record.id ∧
      s'.provider = haunted.provider.without (gone es') ∧
      s'.provider.records = [⟨"z", "mail.example.com", ⟨"m", .v4 1, {}⟩⟩] := by
  let www : Domain := .plain "www.example.com"
  have run := World.runs_trace (withdraw www .v4 true) (w := haunted) rfl
  have failed : (haunted.run (withdraw www .v4 true)).1 =
      ⟨.records "www.example.com" .v4, .failed, false⟩ := by decide
  have left : (haunted.run (withdraw www .v4 true)).2.scene.provider.records =
      [⟨"z", "mail.example.com", ⟨"m", .v4 1, {}⟩⟩] := by decide
  rw [failed] at run
  have some : haunted.scene.provider.records.length = 3 := rfl
  generalize (haunted.run (withdraw www .v4 true)).2.scene = s' at run left
  refine ⟨_, s', run, ?_⟩
  have ended := withdraw_deletes (by simp) run
  generalize haunted.trace (withdraw www .v4 true) = es at ended
  cases ended with
  | unlisted es s' quiet missed =>
    rw [← quiet.provider, left] at some
    cases some
  | listed zone es es' outcome stopped s₁ s' quiet located withdrawal =>
    exact ⟨zone, es', withdrawal.complete rfl, withdrawal.after, left⟩

end Reconcile

end AddressSync
