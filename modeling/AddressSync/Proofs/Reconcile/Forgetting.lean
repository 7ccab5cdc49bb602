import AddressSync.Proofs.Reconcile.Completion
import AddressSync.Proofs.Reconcile.Restraint

/-! What failed work on records leaves cached. Whatever was cached of the place before, and however
wrong, nothing is once a call about its records failed; only where no such call was made does what
was cached stay. -/

namespace AddressSync

open Sync Simulation Directory Scene

def Moment.isAboutRecords : Moment → Bool
  | .called (.listRecords ..) .. | .called (.createRecord ..) .. | .called (.updateRecord ..) ..
  | .called (.deleteRecord ..) .. => true
  | _ => false

namespace Scene

variable {s s' s'' : Scene} {es es' : List Moment} {key : RecordsKey} {c : Call}

def RecordsUnread (key : RecordsKey) (s : Scene) : Prop :=
  ∀ t, s.now ≤ t → s.caches.records.get? t key = none

theorem RecordsUnread.recordsTrue (unread : s.RecordsUnread key) : s.RecordsTrue key := by
  intro t records later found
  rw [unread t later] at found
  cases found

/-- Once a call failed, nothing is cached of the place, and nothing is wherever nothing was. -/
structure Forgets (key : RecordsKey) (s : Scene) (es : List Moment) (s' : Scene) : Prop where
  later : s.now ≤ s'.now
  zones : s.ZonesTrue key.domain → s'.ZonesTrue key.domain
  unread : s.RecordsUnread key ∨ (∃ m ∈ es, m.Fails) → s'.RecordsUnread key

theorem Forgets.append (first : s.Forgets key es s') (rest : s'.Forgets key es' s'') :
    s.Forgets key (es ++ es') s'' := by
  refine ⟨Nat.le_trans first.later rest.later, fun h => rest.zones (first.zones h), ?_⟩
  rintro (unread | ⟨m, mem, fails⟩)
  · exact rest.unread (.inl (first.unread (.inl unread)))
  · rcases List.mem_append.mp mem with mem | mem
    · exact rest.unread (.inl (first.unread (.inr ⟨m, mem, fails⟩)))
    · exact rest.unread (.inr ⟨m, mem, fails⟩)

theorem sequential_forgets : Sequential (Forgets key) where
  nil s := by
    refine ⟨Nat.le_refl _, id, ?_⟩
    rintro (unread | ⟨m, mem, _⟩)
    · exact unread
    · cases mem
  asked s answer := by
    refine ⟨Nat.le_refl _, id, ?_⟩
    rintro (unread | ⟨m, mem, fails⟩)
    · exact unread
    · rw [List.mem_singleton.mp mem] at fails
      cases fails
  append := Forgets.append

theorem Change.forgets {change : c.Reply → List Record → List Record} {reply : Except Failure c.Reply}
    (changed : s.Change c (fun x => patchRecords key (change x)) (dropRecords key) es reply s') :
    s.Forgets key es s' := by
  have caches := changed.caches
  have moments := changed.moments
  have frame : s'.caches.zones = s.caches.zones ∧ s'.caches.owners = s.caches.owners := by
    rw [caches]
    cases reply <;> exact ⟨rfl, rfl⟩
  refine ⟨changed.later, fun h => h.frame changed.later changed.ends.zones frame, ?_⟩
  intro lost t later
  rw [caches]
  cases reply with
  | error e => exact Cache.get?_erase
  | ok x =>
    rcases lost with unread | ⟨m, mem, fails⟩
    · dsimp only [patchRecords]
      rw [Cache.get?_modify later, unread t (Nat.le_trans changed.later later)]
      rfl
    · rw [moments, List.mem_singleton] at mem
      rw [mem] at fails
      cases fails

end Scene

namespace Directory

theorem ensures_records_unread (zone : String) (domain : Domain) (family : Family) (s : Scene) :
    Sync.Ensures (records zone domain family) s fun es reply s' => s.Quiet es s' ∧ s.KeepsZones s' ∧
      ∀ e, reply = .error e → s'.RecordsUnread ⟨zone, domain, family⟩ := by
  have fetches : Sync.Ensures (records zone domain family) s (s.Fetches (fun _ => True)
      fun records now c => { c with records := c.records.set now ⟨zone, domain, family⟩ records }) :=
    ensures_fetch rfl (silent_log _ _ _) (fun _ _ _ _ => trivial) fun _ _ => trivial
  refine (fetches.and (ensures_fetch_missed (silent_log _ _ _) s)).mono ?_
  intro es reply s' ⟨fetches, missed⟩
  refine ⟨fetches.quiet, fetches.keepsZones fun _ _ _ => ⟨rfl, rfl⟩, fun e same t later => ?_⟩
  obtain ⟨kept, t', before, none⟩ := missed e same
  rw [kept]
  exact Cache.get?_eq_none_of_later none (Nat.le_trans before later)

theorem ensures_owner_unasked (domain : Domain) (s : Scene) :
    Sync.Ensures (owner domain) s fun es _ _ => ∀ m ∈ es, ¬ m.isAboutRecords := by
  let Q : Call → Prop := fun c => ∃ name, c = .listZones name
  have only := onlyAsks_owner (usual_calls Q) trivial (fun name => ⟨name, rfl⟩) domain
  refine (only.ensures_asks s).mono fun es reply s' asks m mem => ?_
  have asked := asks m mem
  cases m with
  | called c reply before after =>
    obtain ⟨name, rfl⟩ := asked
    exact Bool.false_ne_true
  | stopAsked | detected | told => exact Bool.false_ne_true

end Directory

namespace Reconcile

variable {t : Target} {progress : Progress} {rest records : List Record} {s s' : Scene}
  {es : List Moment}

theorem ensures_removeRest_hindered (t : Target) (progress : Progress) (rest : List Record)
    (s : Scene) :
    Sync.Ensures (removeRest t progress rest) s fun es result _ =>
      result = (.failed, false) → progress.failed = true ∨ ∃ m ∈ es, m.Fails := by
  induction rest generalizing progress s with
  | nil =>
    refine Program.ensures_pure_iff.mpr fun same => .inl ?_
    have outcome : progress.outcome = .failed := congrArg Prod.fst same
    unfold Progress.outcome at outcome
    cases failed : progress.failed with
    | true => rfl
    | false =>
      rw [failed, if_neg Bool.false_ne_true] at outcome
      split at outcome <;> cases outcome
  | cons record rest ih =>
    refine ensures_stopRequested_iff.mpr fun stop => ?_
    cases stop with
    | true =>
      exact ensures_log_iff.mpr (Program.ensures_pure_iff.mpr fun same => nomatch congrArg Prod.snd same)
    | false =>
      refine (ensures_change s).bind fun es reply s' change => ?_
      cases reply with
      | ok x =>
        refine ensures_log_iff.mpr ((ih _ s').mono fun es' result s'' hindered same => ?_)
        refine (hindered same).imp_right fun ⟨m, mem, fails⟩ => ⟨m, ?_, fails⟩
        exact List.mem_cons_of_mem _ (List.mem_append_right es mem)
      | error e =>
        refine ensures_log_iff.mpr fun es' result s'' _ _ => .inr ?_
        obtain ⟨m, mem, fails⟩ := change.failed
        exact ⟨m, List.mem_cons_of_mem _ (List.mem_append_left es' mem), fails⟩

theorem Settled.hindered {kept? : Option String} (settled : Settled t s records es kept? progress s')
    (failed : kept? = none ∨ progress.failed = true) : ∃ m ∈ es, m.Fails := by
  cases settled with
  | found | repointed | created => rcases failed with failed | failed <;> cases failed
  | replaced | refused => exact ⟨_, List.mem_cons_self, rfl⟩
  | uncreated => exact ⟨_, List.mem_singleton_self _, rfl⟩

theorem ensures_converge_hindered (t : Target) (records : List Record) (s : Scene) :
    Sync.Ensures (converge t records) s fun es result _ =>
      result = (.failed, false) → ∃ m ∈ es, m.Fails := by
  refine (ensures_settle t records s).bind ?_
  rintro es ⟨kept?, progress⟩ s' settled
  cases kept? with
  | none =>
    refine Program.ensures_pure_iff.mpr fun _ => ?_
    rw [List.append_nil]
    exact settled.hindered (.inl rfl)
  | some kept =>
    refine (ensures_removeRest_hindered t progress _ s').bind ?_
    rintro es' ⟨outcome, stopped⟩ s'' hindered
    refine Silent.ensures_guard (silent_log _ _ _) (Program.ensures_pure_iff.mpr fun same => ?_)
    rw [List.append_nil]
    rcases hindered same with failed | ⟨m, mem, fails⟩
    · obtain ⟨m, mem, fails⟩ := settled.hindered (.inr failed)
      exact ⟨m, List.mem_append_left es' mem, fails⟩
    · exact ⟨m, List.mem_append_right es mem, fails⟩

structure Untouched (s : Scene) (es : List Moment) (s' : Scene) : Prop where
  unasked : ∀ m ∈ es, ¬ m.isAboutRecords
  later : s.now ≤ s'.now
  provider : s'.provider = s.provider
  records : s'.caches.records = s.caches.records

theorem ensures_locate_forgets (h : s.ZonesTrue t.domain)
    (owned : s.provider.ownerOf t.domain = .ok t.zone) :
    Sync.Ensures (locate t.domain t.family false) s fun es found s' =>
      s'.ZonesTrue t.domain ∧ match found with
      | none => s'.RecordsUnread t.key ∨ Untouched s es s'
      | some (zone, _) => zone = t.zone := by
  refine ((ensures_owner h).and (ensures_owner_unasked t.domain s)).bind
    fun es reply s' ⟨found, unasked⟩ => ?_
  have zones := found.kept.zonesTrue found.quiet.provider h
  cases reply with
  | error e =>
    refine (silent_logIntegrity _ _ _ e).ensures_bind (Program.ensures_pure_iff.mpr ?_)
    rw [List.append_nil]
    exact ⟨zones, .inr ⟨unasked, found.quiet.later, found.quiet.provider, found.records⟩⟩
  | ok zone =>
    obtain rfl : t.zone = zone := Except.ok.inj (owned.symm.trans (found.true_of_ok zone rfl))
    refine (ensures_records_unread t.zone t.domain t.family s').bind
      fun es reply s'' ⟨quiet, kept, unread⟩ => ?_
    have zones := kept.zonesTrue quiet.provider zones
    cases reply with
    | error e =>
      refine (silent_logIntegrity _ _ _ e).ensures_bind (Program.ensures_pure_iff.mpr ?_)
      exact ⟨zones, .inl (unread e rfl)⟩
    | ok records => exact Program.ensures_pure_iff.mpr ⟨zones, rfl⟩

/-- After a run that failed, and was not stopped, nothing is cached of the place, unless no call was
about records. -/
theorem ensures_publish_forgets (h : s.ZonesTrue t.domain) (ofFamily : t.address.family = t.family)
    (owned : s.provider.ownerOf t.domain = .ok t.zone) :
    Sync.Ensures (publish t.domain t.family t.address t.attributes) s fun es report s' =>
      s'.ZonesTrue t.domain ∧ (report.outcome = .failed → report.stopped = false →
        s'.RecordsUnread t.key ∨ Untouched s es s') := by
  unfold publish
  dsimp only
  rw [if_neg (not_not.mpr ofFamily)]
  refine ensures_stopRequested_iff.mpr fun stop => ?_
  cases stop with
  | true => exact Program.ensures_pure_iff.mpr ⟨h, fun _ ended => nomatch ended⟩
  | false =>
    refine (ensures_locate_forgets h owned).bind fun es found s' ⟨zones, located⟩ => ?_
    rcases found with _ | ⟨zone, records⟩
    · refine Program.ensures_pure_iff.mpr ⟨zones, fun _ _ => located.imp_right ?_⟩
      rintro ⟨unasked, later, provider, records⟩
      rw [List.append_nil]
      exact ⟨List.forall_mem_cons.mpr ⟨Bool.false_ne_true, unasked⟩, later, provider, records⟩
    · obtain rfl : zone = t.zone := located
      refine Program.Ensures.bind Program.ensures_runs fun es' result s'' run => ?_
      obtain ⟨outcome, stopped⟩ := result
      have forgets := ensures_converge_related sequential_forgets t
        (fun _ _ _ _ _ _ changed => changed.forgets) records s' _ _ _ run
      refine Program.ensures_pure_iff.mpr ⟨forgets.zones zones, fun failed ended => .inl ?_⟩
      obtain rfl : outcome = .failed := failed
      obtain rfl : stopped = false := ended
      exact forgets.unread (.inr (ensures_converge_hindered t records s' _ _ _ run rfl))

end Reconcile

end AddressSync
