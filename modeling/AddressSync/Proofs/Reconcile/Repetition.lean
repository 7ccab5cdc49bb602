import AddressSync.Proofs.Reconcile.Completion
import AddressSync.Proofs.Reconcile.Warmth

/-! Publishing an address after anything that went before it on records, and once more. Whatever was
done, and however it went wrong, what is cached is true; so a run in whose way nothing comes brings the
place to its target, and the next one finds it there. As long as no time passes, the next one finds
it in the caches. -/

namespace AddressSync

open Sync Simulation Directory Scene

def Moment.IsCall : Moment → Prop
  | .called .. => True
  | .detected .. | .stopAsked _ | .told .. => False

namespace Reconcile

variable {start s s' s'' : Scene} {es es' : List Moment} {t : Target} {zone : String}
  {domain : Domain} {family : Family} {address : Address} {attributes : Attributes}
  {report : Report} {record : Record}

/-- A history of work on records, ended and stopped in any way, and of time that passes. -/
inductive Tended (start : Scene) : Scene → Prop
  | start : Tended start start
  | published {s s' : Scene} {es : List Moment} {report : Report} (domain : Domain) (family : Family)
    (address : Address) (attributes : Attributes) (before : Tended start s)
    (parsed : domain.IsParsed)
    (run : Sync.Runs (publish domain family address attributes) s es report s') : Tended start s'
  | withdrawn {s s' : Scene} {es : List Moment} {report : Report} (domain : Domain) (family : Family)
    (last : Bool) (before : Tended start s) (parsed : domain.IsParsed)
    (run : Sync.Runs (withdraw domain family last) s es report s') : Tended start s'
  | wait {s : Scene} {t : Nat} (before : Tended start s) (later : s.now ≤ t) :
    Tended start { s with now := t }

theorem Tended.orderly (tended : Tended start s) (h : start.Orderly) :
    s.Orderly ∧ s.caches.lifetimes = start.caches.lifetimes := by
  induction tended with
  | start => exact ⟨h, rfl⟩
  | published domain family address attributes before parsed run ih =>
    obtain ⟨orderly, lifetimes⟩ := ih
    refine ⟨(ensures_publish_orderly orderly parsed family address attributes _ _ _ run).1, ?_⟩
    have only := onlyCalls_publish domain family address attributes
    exact (only.ensures_lifetimes _ _ _ _ run).trans lifetimes
  | withdrawn domain family last before parsed run ih =>
    obtain ⟨orderly, lifetimes⟩ := ih
    refine ⟨ensures_withdraw_orderly orderly parsed family last _ _ _ run, ?_⟩
    have only := onlyCalls_withdraw domain family last
    exact (only.ensures_lifetimes _ _ _ _ run).trans lifetimes
  | wait before later ih =>
    obtain ⟨orderly, lifetimes⟩ := ih
    exact ⟨⟨orderly.numbered, orderly.coherent.pass later⟩, lifetimes⟩

theorem Reached.warm (reached : Reached t s es report s') (ofFamily : t.address.family = t.family)
    (distinct : s.provider.RecordsDistinct) (smooth : Untroubled es) (lasts : s.Lasts)
    (still : s'.now = s.now) : s'.Warm t.key := by
  obtain ⟨es, es', outcome, stopped, s₁, s', found, quiet, run⟩ := reached
  rw [← quiet.provider] at distinct
  obtain ⟨_, smooth⟩ := untroubled_append.mp (untroubled_cons.mp smooth).2
  obtain ⟨_, unfailed⟩ := ensures_converge_done ofFamily distinct _ _ _ run smooth
  obtain ⟨later, kept⟩ := ensures_converge_keepsWarm t _ s₁ _ _ _ run
  have before := quiet.later
  have here : s₁.now = s.now := by omega
  refine kept (still.trans here.symm) unfailed ?_
  exact ensures_locate_warm lasts _ _ _ _ _ found here _ _ rfl

theorem Reached.settled (reached : Reached t s es report s') (held : t.held s.provider = [record])
    (address : record.address = t.address) :
    report = ⟨.records t.domain.print t.family, .unchanged, false⟩ ∧ (∀ m ∈ es, ¬ m.Mutates) ∧
      (s.ZonesTrue t.domain → s.provider.ownerOf t.domain = .ok t.zone → s.Warm t.key →
        s'.now = s.now → ∀ m ∈ es, ¬ m.IsCall) := by
  obtain ⟨es, es', outcome, stopped, s₁, s', found, quiet, run⟩ := reached
  rw [quiet.provider, held] at run
  obtain ⟨rfl, same⟩ := ensures_converge_settled address s₁ _ _ _ run
  cases same
  rw [List.append_nil]
  refine ⟨rfl, fun m mem => (((quiet_stopAsked false).trans quiet).moments m mem).1, ?_⟩
  intro h owned warm still
  have later : s₁.now ≤ s'.now := Sync.Runs.later run
  have before := quiet.later
  have here : s₁.now = s.now := by omega
  obtain rfl := ensures_locate_cached h owned warm _ _ _ found here
  exact List.forall_mem_singleton.mpr not_false

/-- After any history of work on records, a run for a domain whose zone can be found reports that the
place is as wanted, if nothing comes in its way. Doing it again then finds nothing to change, and as
long as no time passes it asks the provider for nothing. -/
theorem publish_repeated {now lifetime : Nat} {p : Provider} (numbered : p.Numbered)
    (tended : Tended ⟨now, p, .empty lifetime⟩ s) (parsed : domain.IsParsed)
    (ofFamily : address.family = family) (owned : s.provider.ownerOf domain = .ok zone)
    (run : Sync.Runs (publish domain family address attributes) s es report s')
    (smooth : Untroubled es) :
    report.stopped = false ∧ (report.outcome = .updated ∨ report.outcome = .unchanged) ∧
      ∀ es' report' s'', Sync.Runs (publish domain family address attributes) s' es' report' s'' →
        Untroubled es' →
          report' = ⟨.records domain.print family, .unchanged, false⟩ ∧ (∀ m ∈ es', ¬ m.Mutates) ∧
            (0 < lifetime → s''.now = s.now → ∀ m ∈ es', ¬ m.IsCall) := by
  let t : Target := ⟨zone, domain, family, address, attributes⟩
  obtain ⟨orderly, lifetimes⟩ := tended.orderly ⟨numbered, coherentOn_empty⟩
  have distinct := orderly.numbered.records_distinct
  have zones := orderly.coherent.toZonesCoherent.zonesTrue domain
  have reached := ensures_publish_reached (t := t) zones (orderly.coherent.recordsTrue _) ofFamily
    owned _ _ _ run smooth
  obtain ⟨ended, done, r, held, here⟩ := reached.converged ofFamily distinct smooth
  refine ⟨ended, done, fun es' report' s'' again smooth' => ?_⟩
  have orderly' := (ensures_publish_orderly orderly parsed family address attributes _ _ _ run).1
  have owned' : s'.provider.ownerOf domain = .ok zone := (Sync.Runs.ownerOf run domain).trans owned
  have zones' := orderly'.coherent.toZonesCoherent.zonesTrue domain
  have reached' := ensures_publish_reached (t := t) zones' (orderly'.coherent.recordsTrue _) ofFamily
    owned' _ _ _ again smooth'
  obtain ⟨same, quiet, cached⟩ := reached'.settled held here
  refine ⟨same, quiet, fun positive still => ?_⟩
  have lasts : s.Lasts := (lasts_empty positive).of_same lifetimes
  have later : s.now ≤ s'.now := Sync.Runs.later run
  have later' : s'.now ≤ s''.now := Sync.Runs.later again
  have warm := reached.warm ofFamily distinct smooth lasts (by omega)
  exact cached zones' owned' warm (by omega)

def mishandled : World where
  provider.zones := [⟨"z", "example.com", .active⟩]
  faults := [⟨.updateRecord, none, some 1, .http "timeout", true⟩,
    ⟨.deleteRecord, none, some 1, .http "timeout", false⟩]
  caches := .empty 60000

def readdressed (w : World) (address : Address) : World :=
  (w.run (publish (.plain "www.example.com") .v4 address {})).2

theorem calm_readdressed {w : World} (calm : w.Calm) (address : Address) :
    (readdressed w address).Calm ∧ (w.Spent → (readdressed w address).Spent ∧
      Untroubled (w.trace (publish (.plain "www.example.com") .v4 address {}))) :=
  calm.run (onlyCalls_publish _ _ _ _)

theorem publish_repeated_mishandled :
    let w := readdressed (readdressed mishandled (.v4 1)) (.v4 2)
    w.provider.listing (.plain "www.example.com") .v4 =
        [⟨"rec-1", .v4 2, {}⟩, ⟨"rec-2", .v4 2, {}⟩] ∧
      ∃ es s', Sync.Runs (publish (.plain "www.example.com") .v4 (.v4 2) {}) w.scene es
          ⟨.records "www.example.com" .v4, .updated, false⟩ s' ∧
        ∃ es' s'', Sync.Runs (publish (.plain "www.example.com") .v4 (.v4 2) {}) s' es'
            ⟨.records "www.example.com" .v4, .unchanged, false⟩ s'' ∧
          (∀ m ∈ es', ¬ m.Mutates) ∧ ∀ m ∈ es', ¬ m.IsCall := by
  intro w'
  let www : Domain := .plain "www.example.com"
  let w := readdressed mishandled (.v4 1)
  have parsed : www.IsParsed := ⟨"www.example.com", by rfl⟩
  have numbered : mishandled.provider.Numbered :=
    (Provider.sound_of_zones [⟨"z", "example.com", .active⟩] 0).toNumbered
  have calm : mishandled.Calm := ⟨rfl, rfl, rfl⟩
  have calm₁ : w.Calm := (calm_readdressed calm _).1
  have calm₂ : w'.Calm := (calm_readdressed calm₁ _).1
  have tended : Tended mishandled.scene w'.scene := by
    have first : Tended mishandled.scene w.scene :=
      .published www .v4 (.v4 1) {} .start parsed (World.runs_trace _ calm.undisturbed)
    exact .published www .v4 (.v4 2) {} first parsed (World.runs_trace _ calm₁.undisturbed)
  obtain ⟨calm₃, free⟩ := calm_readdressed calm₂ (.v4 2)
  obtain ⟨spent, smooth⟩ := free (by decide)
  obtain ⟨_, smooth'⟩ := (calm_readdressed calm₃ (.v4 2)).2 spent
  have run := World.runs_trace (publish www .v4 (.v4 2) {}) calm₂.undisturbed
  have again := World.runs_trace (publish www .v4 (.v4 2) {}) calm₃.undisturbed
  have owned : w'.provider.ownerOf www = .ok "z" := by decide
  obtain ⟨_, _, repeated⟩ := publish_repeated numbered tended parsed rfl owned run smooth
  obtain ⟨same, quiet, cached⟩ := repeated _ _ _ again smooth'
  rw [same] at again
  have updated : (w'.run (publish www .v4 (.v4 2) {})).1 =
      ⟨.records "www.example.com" .v4, .updated, false⟩ := by decide
  rw [updated] at run
  exact ⟨by decide, _, _, run, _, _, again, quiet, cached (by decide) (by decide)⟩

theorem publish_of_other_family : ∃ es s',
    Sync.Runs (publish (.plain "www.example.com") .v4 (.v6 1) {}) mishandled.scene es
      ⟨.records "www.example.com" .v4, .failed, false⟩ s' ∧
    Untroubled es ∧ mishandled.provider.Numbered ∧ Tended mishandled.scene mishandled.scene ∧
      mishandled.provider.ownerOf (.plain "www.example.com") = .ok "z" := by
  have run := World.runs_trace (publish (.plain "www.example.com") .v4 (.v6 1) {})
    (w := mishandled) rfl
  have numbered := (Provider.sound_of_zones [⟨"z", "example.com", .active⟩] 0).toNumbered
  exact ⟨_, _, run, untroubled_nil, numbered, .start, by decide⟩

end Reconcile

end AddressSync
