import AddressSync.Proofs.Directory.Coherence
import AddressSync.Reconcile.Records

/-! What publishing an address can do: where the records of the place are read, how the one that
stays is found among them, by repointing one or by making one, and how the whole of it ends. -/

namespace AddressSync.Reconcile

open Sync Simulation Directory Scene

variable {s s' : Scene} {es : List Moment}

theorem silent_logIntegrity (message : String) (domain : Domain) (family : Family) (e : Failure) :
    Silent (logIntegrity message domain family e) :=
  silent_log _ _ _

theorem silent_remarkAttributes (domain : Domain) (family : Family) (record : Record)
    (wanted : Attributes) : Silent (remarkAttributes domain family record wanted) := by
  unfold remarkAttributes
  refine Silent.guard (silent_log _ _ _) (Silent.guard (silent_log _ _ _) ?_)
  split
  · exact silent_log _ _ _
  · exact silent_pure

theorem ensures_listed {zone : String} {domain : Domain} {family : Family}
    (said : s.RecordsTrue ⟨zone, domain, family⟩) :
    Sync.Ensures (listed zone domain family) s fun es found s' =>
      s.Quiet es s' ∧ s.KeepsZones s' ∧
        (found = some (zone, s.provider.recordsOf zone domain.print family) ∨
          found = none ∧ ∃ m ∈ es, m.Fails) := by
  refine Program.Ensures.bind (ensures_fetch rfl (silent_log _ _ _) said
    fun reply live => (Except.ok.inj live).symm) fun es reply s' result => ?_
  have kept := result.keepsZones fun _ _ _ => ⟨rfl, rfl⟩
  cases reply with
  | error e =>
    refine (silent_logIntegrity _ _ _ e).ensures_bind (Program.ensures_pure_iff.mpr ?_)
    rw [List.append_nil]
    exact ⟨result.quiet, kept, .inr ⟨rfl, result.failed e rfl⟩⟩
  | ok found =>
    refine Program.ensures_pure_iff.mpr ?_
    rw [List.append_nil]
    refine ⟨result.quiet, kept, .inl ?_⟩
    rw [result.true_of_ok found rfl]

theorem ensures_locate {domain : Domain} (h : s.ZonesTrue domain) (family : Family) (fresh : Bool)
    (said : fresh = false → ∀ zone, s.provider.ownerOf domain = .ok zone →
      s.RecordsTrue ⟨zone, domain, family⟩) :
    Sync.Ensures (locate domain family fresh) s fun es found s' =>
      s.Quiet es s' ∧ s.KeepsZones s' ∧
        (found = s.provider.located domain family ∨ found = none ∧ ∃ m ∈ es, m.Fails) := by
  refine (ensures_owner h).bind fun es reply s' owned => ?_
  have provider := owned.quiet.provider
  cases reply with
  | error e =>
    refine (silent_logIntegrity _ _ _ e).ensures_bind (Program.ensures_pure_iff.mpr ?_)
    rw [List.append_nil]
    refine ⟨owned.quiet, owned.kept, owned.answered.imp (fun unowned => ?_) fun failed => ?_⟩
    · rw [Provider.located, unowned]
    · exact ⟨rfl, failed.2⟩
  | ok zone =>
    have owner : s.provider.ownerOf domain = .ok zone := owned.true_of_ok zone rfl
    have located : s.provider.located domain family =
        some (zone, s.provider.recordsOf zone domain.print family) := by
      rw [Provider.located, owner]
    have rest (es : List Moment) (s'' : Scene) (quiet : s.Quiet es s'') (kept : s.KeepsZones s'')
        (said : s''.RecordsTrue ⟨zone, domain, family⟩) :
        Sync.Ensures (listed zone domain family) s'' fun es' found s' =>
          s.Quiet (es ++ es') s' ∧ s.KeepsZones s' ∧ (found = s.provider.located domain family ∨
            found = none ∧ ∃ m ∈ es ++ es', m.Fails) := by
      refine (ensures_listed said).mono fun es' found s' ⟨quiet', kept', live⟩ => ?_
      refine ⟨quiet.trans quiet', kept.trans quiet.provider kept', live.imp (fun same => ?_) ?_⟩
      · rw [same, located, quiet.provider]
      · rintro ⟨same, m, mem, fails⟩
        exact ⟨same, m, List.mem_append_right es mem, fails⟩
    cases fresh with
    | true =>
      refine ensures_revise_iff.mpr fun t later => ?_
      refine rest es _ (by simpa using owned.quiet.trans (quiet_pass later))
        (owned.kept.trans provider (keepsZones_of_same later ⟨rfl, rfl⟩)) ?_
      intro t' records later' found
      exact absurd found (by simp [dropRecords, Cache.get?_erase])
    | false =>
      refine rest es s' owned.quiet owned.kept fun t records later found => ?_
      rw [owned.records] at found
      rw [provider]
      exact said rfl zone owner t records (Nat.le_trans owned.quiet.later later) found

theorem owned_of_located {zone : String} {domain : Domain} {family : Family} {records : List Record}
    {p : Provider} (live : some (zone, records) = p.located domain family ∨
      some (zone, records) = none ∧ ∃ m ∈ es, m.Fails) :
    p.ownerOf domain = .ok zone ∧ records = p.recordsOf zone domain.print family := by
  rcases live with found | ⟨none, _⟩
  · unfold Provider.located at found
    split at found
    · cases found
      exact ⟨by assumption, rfl⟩
    · cases found
  · cases none

variable {t : Target} {kept : String} {records : List Record} {p : Provider}

def Target.held (t : Target) (p : Provider) : List Record :=
  p.recordsOf t.zone t.domain.print t.family

def Target.Holds (t : Target) (kept : String) (p : Provider) : Prop :=
  ∃ r ∈ t.held p, r.id = kept ∧ r.address = t.address

abbrev Target.update (t : Target) (id : String) : Call :=
  .updateRecord t.zone t.domain t.family id t.address

abbrev Target.create (t : Target) : Call :=
  .createRecord t.zone t.domain t.family t.address t.attributes

abbrev Target.delete (t : Target) (id : String) : Call := .deleteRecord t.zone id

/-- The ways to a record that stays, with the calls that each takes. -/
inductive Settled (t : Target) (s : Scene) : List Record → List Moment → Option String →
    Progress → Scene → Prop
  | found (records : List Record) (r : Record) (s' : Scene)
    (first : records.find? (·.address = t.address) = some r) (same : s'.provider = s.provider) :
    Settled t s records [] (some r.id) {} s'
  | repointed (stale : Record) (rest : List Record) (s' : Scene)
    (absent : ∀ r ∈ stale :: rest, r.address ≠ t.address)
    (ends : s.provider.Ends (t.update stale.id) (.ok ()) s'.provider) :
    Settled t s (stale :: rest) [.called (t.update stale.id) (.ok ()) s.provider s'.provider]
      (some stale.id) { changed := true } s'
  | replaced (stale : Record) (rest : List Record) (e : Failure) (p : Provider) (r : Record)
    (s' : Scene) (absent : ∀ r ∈ stale :: rest, r.address ≠ t.address)
    (refused : s.provider.Ends (t.update stale.id) (.error e) p)
    (ends : p.Ends t.create (.ok r) s'.provider) :
    Settled t s (stale :: rest) [.called (t.update stale.id) (.error e) s.provider p,
      .called t.create (.ok r) p s'.provider] (some r.id) { changed := true, failed := true } s'
  | created (r : Record) (s' : Scene) (ends : s.provider.Ends t.create (.ok r) s'.provider) :
    Settled t s [] [.called t.create (.ok r) s.provider s'.provider]
      (some r.id) { changed := true } s'
  | refused (stale : Record) (rest : List Record) (e e' : Failure) (p : Provider) (s' : Scene)
    (progress : Progress) (absent : ∀ r ∈ stale :: rest, r.address ≠ t.address)
    (updates : s.provider.Ends (t.update stale.id) (.error e) p)
    (creates : p.Ends t.create (.error e') s'.provider) :
    Settled t s (stale :: rest) [.called (t.update stale.id) (.error e) s.provider p,
      .called t.create (.error e') p s'.provider] none progress s'
  | uncreated (e : Failure) (s' : Scene) (progress : Progress)
    (ends : s.provider.Ends t.create (.error e) s'.provider) :
    Settled t s [] [.called t.create (.error e) s.provider s'.provider] none progress s'

theorem ensures_createOne (t : Target) (s : Scene) :
    Sync.Ensures (createOne t) s fun es created s' => ∃ reply,
      es = [.called t.create reply s.provider s'.provider] ∧
        s.provider.Ends t.create reply s'.provider ∧ created = reply.toOption.map Record.id := by
  refine (ensures_change s).bind fun es reply s' change => ?_
  have moments := change.moments
  cases reply with
  | ok record =>
    refine ensures_log_iff.mpr (Program.ensures_pure_iff.mpr ?_)
    exact ⟨.ok record, by rw [List.append_nil, moments], change.ends, rfl⟩
  | error e =>
    refine ensures_log_iff.mpr (Program.ensures_pure_iff.mpr ?_)
    exact ⟨.error e, by rw [List.append_nil, moments], change.ends, rfl⟩

theorem ensures_repoint (t : Target) (stale : Record) (s : Scene) :
    Sync.Ensures (repoint t stale) s fun es result s' => ∃ reply,
      es = [.called (t.update stale.id) reply s.provider s'.provider] ∧
        s.provider.Ends (t.update stale.id) reply s'.provider ∧
          result = match reply with
            | .ok _ => (some stale.id, { changed := true })
            | .error _ => (none, { failed := true }) := by
  refine (silent_remarkAttributes _ _ _ _).ensures_bind ?_
  refine (ensures_change s).bind fun es reply s' change => ?_
  have moments := change.moments
  cases reply with
  | ok x =>
    refine ensures_log_iff.mpr (Program.ensures_pure_iff.mpr ?_)
    exact ⟨.ok x, by rw [List.append_nil, moments], change.ends, rfl⟩
  | error e =>
    refine ensures_log_iff.mpr (Program.ensures_pure_iff.mpr ?_)
    exact ⟨.error e, by rw [List.append_nil, moments], change.ends, rfl⟩

theorem ensures_settle (t : Target) (records : List Record) (s : Scene) :
    Sync.Ensures (settle t records) s fun es result s' =>
      Settled t s records es result.1 result.2 s' := by
  unfold settle keepOne
  cases first : records.find? (·.address = t.address) with
  | some r => exact Program.ensures_pure_iff.mpr (.found records r s first rfl)
  | none =>
    cases records with
    | nil =>
      refine (ensures_createOne t s).bind fun es created s' ⟨reply, moments, ends, made⟩ => ?_
      subst moments made
      refine Program.ensures_pure_iff.mpr ?_
      cases reply with
      | ok r => exact .created r s' ends
      | error e => exact .uncreated e s' _ ends
    | cons stale rest =>
      have absent : ∀ r ∈ stale :: rest, r.address ≠ t.address := by
        simpa using first
      refine (ensures_repoint t stale s).bind fun es result s' ⟨reply, moments, ends, made⟩ => ?_
      subst moments made
      cases reply with
      | ok x => exact Program.ensures_pure_iff.mpr (.repointed stale rest s' absent ends)
      | error e =>
        refine (ensures_createOne t s').bind fun es created s'' ⟨reply, moments, ends', made⟩ => ?_
        subst moments made
        refine Program.ensures_pure_iff.mpr ?_
        cases reply with
        | ok r => exact .replaced stale rest e s'.provider r s'' absent ends ends'
        | error e' => exact .refused stale rest e e' s'.provider s'' _ absent ends ends'

/-- The ways in which publishing an address ends: it fails with nothing done, or the records in the
zone that owns the domain were brought to the target. -/
inductive Published (domain : Domain) (family : Family) (address : Address)
    (attributes : Attributes) (s : Scene) : List Moment → Report → Scene → Prop
  | idle (es : List Moment) (stopped : Bool) (s' : Scene) (quiet : s.Quiet es s') :
    Published domain family address attributes s es
      ⟨.records domain.print family, .failed, stopped⟩ s'
  | converged (zone : String) (es es' : List Moment) (outcome : Outcome) (stopped : Bool)
    (s' s'' : Scene) (ofFamily : address.family = family)
    (owned : s.provider.ownerOf domain = .ok zone) (quiet : s.Quiet es s')
    (run : Sync.Runs (converge ⟨zone, domain, family, address, attributes⟩
      (s'.provider.recordsOf zone domain.print family)) s' es' (outcome, stopped) s'') :
    Published domain family address attributes s (es ++ es')
      ⟨.records domain.print family, outcome, stopped⟩ s''

theorem ensures_publish (h : s.Coherent) {domain : Domain} {family : Family} {address : Address}
    {attributes : Attributes} :
    Sync.Ensures (publish domain family address attributes) s
      (Published domain family address attributes s) := by
  unfold publish
  dsimp only
  split
  · refine ensures_log_iff.mpr (Program.ensures_pure_iff.mpr ?_)
    exact .idle _ _ _ (quiet_pass (Nat.le_refl s.now))
  next ofFamily =>
  have ofFamily : address.family = family := Decidable.not_not.mp ofFamily
  refine ensures_stopRequested_iff.mpr fun stop => ?_
  have asked : s.Quiet [.stopAsked stop] s := quiet_stopAsked stop
  cases stop with
  | true => exact Program.ensures_pure_iff.mpr (.idle _ _ _ asked)
  | false =>
    have located := ensures_locate (h.toZonesCoherent.zonesTrue domain) family false
      fun _ _ _ => h.recordsTrue _
    refine located.bind fun es found s' ⟨quiet, _, live⟩ => ?_
    have quiet := asked.trans quiet
    cases found with
    | none =>
      refine Program.ensures_pure_iff.mpr ?_
      rw [List.append_nil]
      exact .idle _ _ _ quiet
    | some found =>
      obtain ⟨zone, records⟩ := found
      obtain ⟨owned, rfl⟩ := owned_of_located live
      rw [← quiet.provider]
      refine Program.Ensures.bind Program.ensures_runs fun es' result s'' run => ?_
      refine Program.ensures_pure_iff.mpr ?_
      rw [List.append_nil]
      exact .converged zone _ es' _ _ s' s'' ofFamily owned quiet run

end AddressSync.Reconcile
