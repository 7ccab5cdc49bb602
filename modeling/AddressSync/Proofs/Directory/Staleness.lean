import AddressSync.Proofs.Directory.Coherence
import AddressSync.Proofs.Surroundings.Watched

/-! How old a zone that is given for a domain can be, while others change the zones at will. The
zones of a name and the owner of a domain are cached with a lifetime each, and an owner may be found
among cached zones. So what is given was found less than one lifetime ago, in a reply that was then
less than one lifetime old; in all it may be older than one lifetime, but never as old as two. -/

namespace AddressSync

open Sync Simulation Directory

def Heard.Offers (h : Heard) (zone : String) : Prop := ∃ z ∈ h.zones, isUsable z ∧ z.id = zone

namespace Watch

variable {s s' : Watch} {lifetime : Nat} {heard heard' es : List Heard} {name zone : String}
  {domain : Domain}

structure Recent (lifetime : Nat) (heard : List Heard) (name : String) (time : Nat) (h : Heard) :
    Prop where
  mem : h ∈ heard
  named : h.name = name
  before : h.time ≤ time
  recent : time < h.time + lifetime

/-- The zone was offered for one of the names of the domain, less than a lifetime before. -/
def Resolved (lifetime : Nat) (heard : List Heard) (domain : Domain) (zone : String)
    (time : Nat) : Prop :=
  ∃ name ∈ domain.zoneNames, ∃ h, Recent lifetime heard name time h ∧ h.Offers zone

/-- Where what is cached about zones comes from. Cached zones expire a lifetime after they were
heard of, but a cached owner only a lifetime after it was found. -/
structure Traced (lifetime : Nat) (heard : List Heard) (s : Watch) : Prop where
  zones_lifetime : s.caches.zones.lifetime = lifetime
  owners_lifetime : s.caches.owners.lifetime = lifetime
  zones : ∀ e ∈ s.caches.zones.entries, ∃ h ∈ heard, h.name = e.key ∧ h.zones = e.value ∧
    h.time ≤ s.now ∧ e.expires = h.time + lifetime
  owners : ∀ e ∈ s.caches.owners.entries, ∃ found ≤ s.now,
    Resolved lifetime heard e.key e.value found ∧ e.expires = found + lifetime

theorem traced_empty (now lifetime : Nat) : Traced lifetime [] ⟨now, .empty lifetime⟩ where
  zones_lifetime := rfl
  owners_lifetime := rfl
  zones _ mem := absurd mem List.not_mem_nil
  owners _ mem := absurd mem List.not_mem_nil

theorem Recent.mono {time : Nat} {h : Heard} (recent : Recent lifetime heard name time h)
    (more : heard ⊆ heard') : Recent lifetime heard' name time h :=
  { recent with mem := more recent.mem }

theorem Resolved.mono {time : Nat} (resolved : Resolved lifetime heard domain zone time)
    (more : heard ⊆ heard') : Resolved lifetime heard' domain zone time := by
  obtain ⟨name, candidate, h, recent, offers⟩ := resolved
  exact ⟨name, candidate, h, recent.mono more, offers⟩

/-- While time passes and more is heard, what is cached keeps its origin. -/
theorem Traced.later (traced : Traced lifetime heard s) (more : heard ⊆ heard') {t : Nat}
    (later : s.now ≤ t) : Traced lifetime heard' { s with now := t } where
  zones_lifetime := traced.zones_lifetime
  owners_lifetime := traced.owners_lifetime
  zones e mem := by
    obtain ⟨h, heard, named, value, before, expires⟩ := traced.zones e mem
    exact ⟨h, more heard, named, value, Nat.le_trans before later, expires⟩
  owners e mem := by
    obtain ⟨found, before, resolved, expires⟩ := traced.owners e mem
    exact ⟨found, Nat.le_trans before later, resolved.mono more, expires⟩

theorem ensures_zones (positive : 0 < lifetime) (traced : Traced lifetime heard s)
    (name : String) :
    Ensures (zones name) s fun es reply s' =>
      Traced lifetime (heard ++ es) s' ∧ s.now ≤ s'.now ∧
        ∀ found, reply = .ok found →
          ∃ h, Recent lifetime (heard ++ es) name s'.now h ∧ h.zones = found := by
  refine ensures_look_iff.mpr ?_
  dsimp only
  cases cached : s.caches.zones.get? s.now name with
  | some value =>
    refine ensures_log_iff.mpr (Program.ensures_pure_iff.mpr ?_)
    rw [List.append_nil]
    refine ⟨traced, Nat.le_refl _, fun found same => ?_⟩
    obtain ⟨e, mem, rfl, rfl, live⟩ := Cache.exists_entry_of_get? cached
    obtain ⟨h, heard, named, zones, before, expires⟩ := traced.zones e mem
    have alive : s.now < e.expires := of_decide_eq_true live
    rw [expires] at alive
    exact ⟨h, ⟨heard, named, before, alive⟩, zones.trans (Except.ok.inj same)⟩
  | none =>
    refine Program.ensures_perform_bind_iff.mpr ?_
    rintro reply es ⟨t, caches⟩ ⟨later, same, rfl⟩
    obtain rfl : caches = s.caches := congrArg Watch.caches same
    cases reply with
    | error e =>
      refine Program.ensures_pure_iff.mpr ?_
      exact ⟨traced.later (List.subset_append_left ..) later, later, fun found said => nomatch said⟩
    | ok found =>
      refine ensures_revise_iff.mpr (Program.ensures_pure_iff.mpr ?_)
      have heardNow : (⟨t, name, found⟩ : Heard) ∈ heard ++ [⟨t, name, found⟩] :=
        List.mem_append_right _ (List.mem_singleton_self _)
      have passed : Traced lifetime (heard ++ [⟨t, name, found⟩]) ⟨t, s.caches⟩ :=
        traced.later (List.subset_append_left ..) later
      refine ⟨{ passed with zones := fun e mem => ?_ }, later, fun value said => ?_⟩
      · rcases Cache.mem_set mem with ⟨mem, _⟩ | rfl
        · exact passed.zones e mem
        · refine ⟨_, heardNow, rfl, rfl, Nat.le_refl t, ?_⟩
          exact congrArg (t + ·) passed.zones_lifetime
      · rw [← Except.ok.inj said]
        exact ⟨_, ⟨heardNow, rfl, Nat.le_refl t, Nat.lt_add_of_pos_right positive⟩, rfl⟩

structure Searched (lifetime : Nat) (heard : List Heard) (domain : Domain) (s : Watch)
    (es : List Heard) (reply : Except Failure String) (s' : Watch) : Prop where
  traced : Traced lifetime (heard ++ es) s'
  later : s.now ≤ s'.now
  resolved : ∀ zone, reply = .ok zone → Resolved lifetime (heard ++ es) domain zone s'.now

theorem ensures_ownerAmong (positive : 0 < lifetime) (traced : Traced lifetime heard s)
    {names : List String} (candidates : names ⊆ domain.zoneNames) :
    Ensures (ownerAmong domain names) s (Searched lifetime heard domain s) := by
  induction names generalizing heard s with
  | nil =>
    refine Program.ensures_pure_iff.mpr ⟨?_, Nat.le_refl _, fun zone said => nomatch said⟩
    rwa [List.append_nil]
  | cons name rest ih =>
    obtain ⟨candidate, candidates⟩ := List.cons_subset.mp candidates
    refine (ensures_zones positive traced name).bind fun es reply s' ⟨traced', later, live⟩ => ?_
    cases reply with
    | error e =>
      refine Program.ensures_pure_iff.mpr ⟨?_, later, fun zone said => nomatch said⟩
      rwa [List.append_nil]
    | ok found =>
      refine ensures_silent (silent_forM (silent_remark name) found) ?_
      split
      · refine (ih traced' candidates).mono fun es' reply s'' ⟨traced'', later', resolved⟩ => ?_
        rw [List.append_assoc] at traced'' resolved
        exact ⟨traced'', Nat.le_trans later later', resolved⟩
      · next zone only =>
        obtain ⟨h, recent, rfl⟩ := live found rfl
        have offered : zone ∈ h.zones.filter isUsable := by
          rw [only]
          exact List.mem_singleton_self zone
        obtain ⟨mem, usable⟩ := List.mem_filter.mp offered
        have resolved : Resolved lifetime (heard ++ es) domain zone.id s'.now :=
          ⟨name, candidate, h, recent, zone, mem, usable, rfl⟩
        refine ensures_log_iff.mpr (ensures_revise_iff.mpr (Program.ensures_pure_iff.mpr ?_))
        rw [List.append_nil]
        refine ⟨{ traced' with owners := fun e mem => ?_ }, later, fun value said => ?_⟩
        · rcases Cache.mem_set mem with ⟨mem, _⟩ | rfl
          · exact traced'.owners e mem
          · refine ⟨s'.now, Nat.le_refl _, resolved, ?_⟩
            exact congrArg (s'.now + ·) traced'.owners_lifetime
        · rw [← Except.ok.inj said]
          exact resolved
      · refine Program.ensures_pure_iff.mpr ⟨?_, later, fun zone said => nomatch said⟩
        rwa [List.append_nil]

theorem ensures_owner (positive : 0 < lifetime) (traced : Traced lifetime heard s)
    (domain : Domain) :
    Ensures (owner domain) s fun es reply s' =>
      Traced lifetime (heard ++ es) s' ∧ ∀ zone, reply = .ok zone →
        ∃ found ≤ s'.now, s'.now < found + lifetime ∧
          Resolved lifetime (heard ++ es) domain zone found ∧
            (s.caches.owners.get? s.now domain = none → found = s'.now) := by
  refine ensures_look_iff.mpr ?_
  dsimp only
  cases cached : s.caches.owners.get? s.now domain with
  | some value =>
    refine ensures_log_iff.mpr (Program.ensures_pure_iff.mpr ?_)
    rw [List.append_nil]
    refine ⟨traced, fun zone said => ?_⟩
    -- A cached owner dates from when it was found; what it was found by may be older still.
    obtain ⟨e, mem, rfl, rfl, live⟩ := Cache.exists_entry_of_get? cached
    obtain ⟨found, before, resolved, expires⟩ := traced.owners e mem
    have alive : s.now < e.expires := of_decide_eq_true live
    rw [expires] at alive
    rw [← Except.ok.inj said]
    exact ⟨found, before, alive, resolved, fun none => nomatch none⟩
  | none =>
    refine (ensures_ownerAmong positive traced (List.Subset.refl _)).mono
      fun es reply s' ⟨traced', _, resolved⟩ => ⟨traced', fun zone said => ?_⟩
    exact ⟨s'.now, Nat.le_refl _, Nat.lt_add_of_pos_right positive, resolved zone said, fun _ => rfl⟩

/-- Zones and owners that are asked for one after the other, with time that passes in between, and
what was heard of zones meanwhile. -/
inductive Lookups (start : Watch) : List Heard → Watch → Prop
  | start : Lookups start [] start
  | zones {heard es : List Heard} {s s' : Watch} {reply : Except Failure (List Zone)}
    (before : Lookups start heard s) (name : String) (run : Runs (zones name) s es reply s') :
    Lookups start (heard ++ es) s'
  | owner {heard es : List Heard} {s s' : Watch} {reply : Except Failure String}
    (before : Lookups start heard s) (domain : Domain) (run : Runs (owner domain) s es reply s') :
    Lookups start (heard ++ es) s'
  | wait {heard : List Heard} {s : Watch} {t : Nat} (before : Lookups start heard s)
    (later : s.now ≤ t) : Lookups start heard { s with now := t }

theorem Lookups.traced {now : Nat} (positive : 0 < lifetime)
    (lookups : Lookups ⟨now, .empty lifetime⟩ heard s) : Traced lifetime heard s := by
  induction lookups with
  | start => exact traced_empty now lifetime
  | zones before name run traced => exact (ensures_zones positive traced name _ _ _ run).1
  | owner before domain run traced => exact (ensures_owner positive traced domain _ _ _ run).1
  | wait before later traced => exact traced.later (List.Subset.refl _) later

/-- However zones change, an owner that is given was offered for a name of the domain by a reply
that is less than two lifetimes old, and less than one if the owner was not cached itself. -/
theorem offered_of_owner {now : Nat} (positive : 0 < lifetime)
    (lookups : Lookups ⟨now, .empty lifetime⟩ heard s)
    (run : Runs (owner domain) s es (.ok zone) s') :
    ∃ name ∈ domain.zoneNames, ∃ h ∈ heard ++ es, h.name = name ∧ h.Offers zone ∧
      h.time ≤ s'.now ∧ s'.now < h.time + 2 * lifetime ∧
        (s.caches.owners.get? s.now domain = none → s'.now < h.time + lifetime) := by
  have resolved := (ensures_owner positive (lookups.traced positive) domain _ _ _ run).2
  obtain ⟨found, before, alive, ⟨name, candidate, h, recent, offers⟩, fresh⟩ := resolved zone rfl
  have dated : h.time ≤ found := recent.before
  have young : found < h.time + lifetime := recent.recent
  refine ⟨name, candidate, h, recent.mem, recent.named, offers, by omega, by omega, fun none => ?_⟩
  rw [fresh none] at young
  exact young

def closing : World where
  provider.zones := [⟨"z", "example.com", .active⟩]
  caches := .empty 60000
  agenda := [(60000, .removeZone "z")]

def closed : World :=
  let asked := (closing.run (owner (.plain "a.example.com"))).2.wait 59000
  (asked.run (owner (.plain "b.example.com"))).2.wait 59000

theorem offered_of_owner_closed : closed.provider.zones = [] ∧ closed.now = 118000 ∧
    ∃ heard, Lookups ⟨0, .empty 60000⟩ heard closed.watch ∧
      Runs (owner (.plain "b.example.com")) closed.watch [] (.ok "z") closed.watch ∧
        (∀ h ∈ heard, h.Offers "z" → h.time = 0) ∧
          ∃ h ∈ heard, h.Offers "z" ∧ closed.now < h.time + 2 * 60000 := by
  have waits {heard : List Heard} {w : World} (before : Lookups ⟨0, .empty 60000⟩ heard w.watch) :
      Lookups ⟨0, .empty 60000⟩ heard (w.wait 59000).watch := by
    rw [World.watch_wait]
    exact before.wait (Nat.le_add_right ..)
  have first : Program.trace World.answer World.heard (owner (.plain "a.example.com")) closing =
      [⟨0, "a.example.com", []⟩, ⟨0, "example.com", [⟨"z", "example.com", .active⟩]⟩] := by rfl
  have second : Program.trace World.answer World.heard (owner (.plain "b.example.com"))
      ((closing.run (owner (.plain "a.example.com"))).2.wait 59000) =
        [⟨59000, "b.example.com", []⟩] := by rfl
  have third : Program.trace World.answer World.heard (owner (.plain "b.example.com")) closed =
      [] := by rfl
  have given : (closed.run (owner (.plain "b.example.com"))).1 = .ok "z" := by rfl
  have asked := World.watch_run (owner (.plain "a.example.com")) closing
  have again := World.watch_run (owner (.plain "b.example.com"))
    ((closing.run (owner (.plain "a.example.com"))).2.wait 59000)
  have run := World.watch_run (owner (.plain "b.example.com")) closed
  rw [first] at asked
  rw [second] at again
  rw [third, given] at run
  have lookups : Lookups ⟨0, .empty 60000⟩ [⟨0, "a.example.com", []⟩,
      ⟨0, "example.com", [⟨"z", "example.com", .active⟩]⟩, ⟨59000, "b.example.com", []⟩]
        closed.watch :=
    waits ((waits (Lookups.start.owner _ asked)).owner _ again)
  obtain ⟨name, _, h, mem, _, offers, _, young, _⟩ := offered_of_owner (by decide) lookups run
  refine ⟨rfl, rfl, _, lookups, run, fun h mem offers => ?_, h, mem, offers, young⟩
  obtain ⟨zone, offered, _⟩ := offers
  simp only [List.mem_cons, List.not_mem_nil, or_false] at mem
  rcases mem with rfl | rfl | rfl
  · rfl
  · rfl
  · cases offered

end Watch

end AddressSync
