import AddressSync.Proofs.Directory.Changes
import AddressSync.Proofs.Provider.Without
import AddressSync.Proofs.Reconcile.Completion
import AddressSync.Proofs.Reconcile.Continuity
import AddressSync.Proofs.Reconcile.Distance
import Mathlib.Order.Bounds.Defs

/-! Publishing an address takes no more changes than it must. What nothing comes in the way of does
exactly the calls of a plan, which is read off the listing; the plan ends at one record with the
address, changes nothing else, and is as long as the distance from there. -/

namespace AddressSync

open Sync Simulation Directory

def Moment.change? : Moment → Option Call
  | .called c .. => if c.isMutation then some c else none
  | .detected .. | .stopAsked _ | .told .. => none

def changes (es : List Moment) : List Call := es.filterMap Moment.change?

def Call.deleted? : Call → Option String
  | .deleteRecord _ id => some id
  | _ => none

variable {α : Type} {p : Sync α} {s s' : Scene} {es es' : List Moment} {a : α}

theorem changes_append : changes (es ++ es') = changes es ++ changes es' := List.filterMap_append

theorem changes_eq_nil (reads : ∀ m ∈ es, ¬ m.Mutates) : changes es = [] := by
  refine List.filterMap_eq_nil_iff.mpr fun m mem => ?_
  cases m with
  | called c reply before after => exact if_neg (reads _ mem)
  | detected | stopAsked | told => rfl

theorem deletions_eq (es : List Moment) : deletions es = (changes es).filterMap Call.deleted? := by
  rw [deletions, changes, List.filterMap_filterMap]
  refine List.filterMap_congr fun m _ => ?_
  cases m with
  | called c reply before after => cases c <;> rfl
  | detected | stopAsked | told => rfl

/-- Where nothing comes in the way, the changes that were asked for are all that became of the
provider. -/
theorem Sync.Runs.performAll (run : Sync.Runs p s es a s') (smooth : Untroubled es) :
    s'.provider = s.provider.performAll (changes es) := by
  induction run with
  | done a s => rfl
  | @ask r next s s₁ s₂ x es es' a answered rest ih =>
    obtain ⟨here, later⟩ := untroubled_append.mp smooth
    have step : s₁.provider = s.provider.performAll (changes es) := by
      cases r with
      | call c =>
        obtain ⟨_, _, _, rfl⟩ := answered
        obtain ⟨_, performed⟩ := (untroubled_cons.mp here).1
        cases reads : c.isMutation with
        | true => simp [changes, Moment.change?, reads, performed]
        | false => simp [changes, Moment.change?, reads, performed, Provider.perform_of_reads reads]
      | detect family limit =>
        obtain ⟨_, same, rfl⟩ := answered
        rw [same]
        rfl
      | look =>
        obtain ⟨_, same, _, rfl⟩ := answered
        rw [same]
        rfl
      | revise change =>
        obtain ⟨_, same, rfl⟩ := answered
        rw [same]
        rfl
      | stopRequested | emit | limitWork | log =>
        obtain ⟨rfl, rfl⟩ := answered
        rfl
    rw [ih later, step, changes_append, Provider.performAll_append]

namespace Simulation.Provider

variable {p p' : Provider} {key : RecordsKey} {ids : List String}

structure AsideFrom (key : RecordsKey) (p p' : Provider) : Prop where
  zones : p'.zones = p.zones
  lists : p'.lists = p.lists
  items : p'.items = p.items
  elsewhere : ∀ zone name family, ¬ (zone = key.zone ∧ name = key.domain.print ∧
    family = key.family) → p'.recordsOf zone name family = p.recordsOf zone name family

theorem asideFrom_self (key : RecordsKey) (p : Provider) : p.AsideFrom key p :=
  ⟨rfl, rfl, rfl, fun _ _ _ _ => rfl⟩

theorem ChangesRecords.asideFrom {c : Call} {change : c.Reply → List Record → List Record}
    (work : p.ChangesRecords c key change) : p.AsideFrom key (p.perform c).2 :=
  ⟨zones_perform p c, work.lists, work.items, work.elsewhere⟩

theorem AsideFrom.without (h : p.AsideFrom key p')
    (within : ∀ id ∈ ids, p.RecordWithin id key.zone key.domain.print key.family) :
    p.AsideFrom key (p'.without ids) where
  zones := h.zones
  lists := h.lists
  items := h.items
  elsewhere zone name family other := by
    have same := h.elsewhere zone name family other
    rw [recordsOf_without_of_absent, same]
    rw [same]
    exact fun r mem among => (within r.id among).not_mem_elsewhere other r mem rfl

end Simulation.Provider

namespace Reconcile

open Scene

variable {t : Target} {L rest : List Record} {cs : List Call} {kept : String} {progress : Progress}
  {p : Provider} {r : Record}

def Target.deletes (t : Target) (rs : List Record) : List Call :=
  (rs.map Record.id).map fun id => t.delete id

/-- The changes to make of a listing one record with the address. -/
inductive Target.Plans (t : Target) : List Record → List Call → Prop
  | keep {L : List Record} {r : Record} (first : L.find? (·.address = t.address) = some r) :
    Plans t L (t.deletes (L.filter (·.id ≠ r.id)))
  | repoint {stale : Record} {rest : List Record}
    (absent : ∀ r ∈ stale :: rest, r.address ≠ t.address) :
    Plans t (stale :: rest)
      (t.update stale.id :: t.deletes ((stale :: rest).filter (·.id ≠ stale.id)))
  | create : Plans t [] [t.create]

/-- The record that is left: the first one listed with the address, or else the first one with
nothing but its address changed, or else a new one with the attributes that are wanted. -/
def Target.IsSurvivor (t : Target) (L : List Record) (r : Record) : Prop :=
  match L.find? (·.address = t.address), L with
  | some first, _ => r = first
  | none, stale :: _ => r = { stale with address := t.address }
  | none, [] => r.address = t.address ∧ r.attributes = t.attributes

theorem ensures_removeRest_changes (t : Target) (progress : Progress) (rest : List Record)
    (s : Scene) : Sync.Ensures (removeRest t progress rest) s fun es _ _ =>
      Untroubled es → changes es = t.deletes rest := by
  induction rest generalizing progress s with
  | nil => exact Program.ensures_pure_iff.mpr fun _ => rfl
  | cons record rest ih =>
    refine ensures_stopRequested_iff.mpr fun stop => ?_
    cases stop with
    | true =>
      refine ensures_log_iff.mpr (Program.ensures_pure_iff.mpr fun smooth => ?_)
      cases (untroubled_cons.mp smooth).1
    | false =>
      refine (ensures_change s).bind fun es reply s' change => ?_
      have moments := change.moments
      cases reply with
      | ok x | error e =>
        refine ensures_log_iff.mpr ((ih _ s').mono fun es' result s'' later smooth => ?_)
        have later := later (untroubled_append.mp (untroubled_cons.mp smooth).2).2
        rw [moments]
        exact congrArg (t.delete record.id :: ·) later

theorem Settled.plans (settled : Settled t s (t.held s.provider) es (some kept) progress s')
    (smooth : Untroubled es) :
    t.Plans (t.held s.provider)
      (changes es ++ t.deletes ((t.held s.provider).filter (·.id ≠ kept))) := by
  have clean := (settled.done smooth).2.1
  generalize t.held s.provider = records at settled
  cases settled with
  | found _ r _ first same => exact .keep first
  | repointed stale rest _ absent ends => exact .repoint absent
  | created r _ ends => exact .create
  | replaced => cases clean

theorem ensures_converge_plans (t : Target) (s : Scene) :
    Sync.Ensures (converge t (t.held s.provider)) s fun es _ _ =>
      Untroubled es → t.Plans (t.held s.provider) (changes es) := by
  refine (ensures_settle t (t.held s.provider) s).bind ?_
  rintro es ⟨kept?, progress⟩ s' settled
  cases kept? with
  | none =>
    refine Program.ensures_pure_iff.mpr fun smooth => ?_
    rw [List.append_nil] at smooth
    exact nomatch (settled.done smooth).1
  | some kept =>
    refine (ensures_removeRest_changes t progress _ s').bind ?_
    rintro es' ⟨outcome, stopped⟩ s'' removes
    refine Silent.ensures_guard (silent_log _ _ _) (Program.ensures_pure_iff.mpr fun smooth => ?_)
    rw [List.append_nil] at smooth ⊢
    obtain ⟨before, after⟩ := untroubled_append.mp smooth
    rw [changes_append, removes after]
    exact settled.plans before

theorem performAll_deletes (t : Target) (p : Provider) (rs : List Record) :
    p.performAll (t.deletes rs) = p.without (rs.map Record.id) := by
  induction rs generalizing p with
  | nil => exact p.without_nil.symm
  | cons r rs ih =>
    calc p.performAll (t.deletes (r :: rs))
        = (p.perform (t.delete r.id)).2.performAll (t.deletes rs) := rfl
      _ = (p.without [r.id]).without (rs.map Record.id) := by
        rw [ih, Provider.perform_deleteRecord]
      _ = p.without ((r :: rs).map Record.id) := Provider.without_without ..

theorem filterMap_deletes (t : Target) (rs : List Record) :
    (t.deletes rs).filterMap Call.deleted? = rs.map Record.id := by
  simp [Target.deletes, List.filterMap_map, Function.comp_def, Call.deleted?]

theorem filter_not_mem_others (L : List Record) (kept : String) :
    L.filter (·.id ∉ (L.filter (·.id ≠ kept)).map Record.id) = L.filter (·.id = kept) := by
  refine List.filter_congr fun r mem => ?_
  by_cases same : r.id = kept
  · simp [same]
  · have other : ∃ r' ∈ L, r'.id ≠ kept ∧ r'.id = r.id := ⟨r, mem, same, rfl⟩
    simpa [same, and_assoc] using other

theorem held_without_others (ids : (t.held p).map Record.id = L.map Record.id)
    (distinct : (L.map Record.id).Nodup) (mem : r ∈ t.held p) :
    t.held (p.without ((L.filter (·.id ≠ r.id)).map Record.id)) = [r] := by
  have others : (L.filter (·.id ≠ r.id)).map Record.id =
      ((t.held p).filter (·.id ≠ r.id)).map Record.id := by
    calc (L.filter (·.id ≠ r.id)).map Record.id
        = (L.map Record.id).filter (· ≠ r.id) := by rw [List.filter_map]; rfl
      _ = ((t.held p).filter (·.id ≠ r.id)).map Record.id := by rw [← ids, List.filter_map]; rfl
  rw [others, Target.held, Provider.recordsOf_without, ← Target.held, filter_not_mem_others]
  exact filter_id_of_mem (ids ▸ distinct) mem

namespace Target.Plans

theorem length_eq (plans : t.Plans L cs) (distinct : (L.map Record.id).Nodup) :
    cs.length = if L.any (·.address = t.address) then L.length - 1
      else if L = [] then 1 else L.length := by
  cases plans with
  | @keep _ r first =>
    have mem := List.mem_of_find?_eq_some first
    have address := List.find?_some first
    have met : L.any (·.address = t.address) := List.any_eq_true.mpr ⟨r, mem, address⟩
    have split := List.length_eq_length_filter_add (l := L) fun r' => decide (r'.id = r.id)
    rw [filter_id_of_mem distinct mem] at split
    simp only [← decide_not, List.length_singleton] at split
    rw [if_pos met, Target.deletes, List.length_map, List.length_map, split,
      Nat.add_sub_cancel_left]
  | @repoint stale rest absent =>
    have unmet : ¬ (stale :: rest).any (·.address = t.address) := by simpa using absent
    rw [if_neg unmet, if_neg (List.cons_ne_nil _ _), Provider.filter_cons_of_nodup distinct]
    simp [Target.deletes]
  | create => rfl

theorem deleted_sublist (plans : t.Plans L cs) :
    (cs.filterMap Call.deleted?).Sublist (L.map Record.id) := by
  cases plans with
  | keep first =>
    rw [filterMap_deletes]
    exact List.filter_sublist.map _
  | repoint absent =>
    rw [List.filterMap_cons_none rfl, filterMap_deletes]
    exact List.filter_sublist.map _
  | create => exact List.nil_sublist _

theorem reaches (plans : t.Plans L cs) (held : t.held p = L)
    (ofFamily : t.address.family = t.family) (distinct : (L.map Record.id).Nodup)
    (within : ∀ r ∈ L, p.RecordWithin r.id t.zone t.domain.print t.family) :
    p.AsideFrom t.key (p.performAll cs) ∧
      ∃ r, t.held (p.performAll cs) = [r] ∧ t.IsSurvivor L r := by
  have others (kept : String) : ∀ id ∈ (L.filter (·.id ≠ kept)).map Record.id,
      p.RecordWithin id t.zone t.domain.print t.family := by
    intro id among
    obtain ⟨r, mem, rfl⟩ := List.mem_map.mp among
    exact within r (List.mem_filter.mp mem).1
  cases plans with
  | @keep _ r first =>
    rw [performAll_deletes]
    have mem : r ∈ t.held p := held ▸ List.mem_of_find?_eq_some first
    refine ⟨(Provider.asideFrom_self t.key p).without (others r.id), r, ?_, ?_⟩
    · exact held_without_others (congrArg _ held) distinct mem
    · unfold IsSurvivor
      rw [first]
  | @repoint stale rest absent =>
    have mem : stale ∈ t.held p := held ▸ List.mem_cons_self
    have listed : ((t.held p).map Record.id).Nodup := held ▸ distinct
    have work := Provider.changesRecords_update_within ofFamily
      (within stale List.mem_cons_self) listed
    have after : t.held (p.perform (t.update stale.id)).2 =
        (stale :: rest).map (readdress stale.id t.address) := by
      rw [← held]
      exact work.here () (Provider.perform_updateRecord_of_mem mem)
    have ids : (t.held (p.perform (t.update stale.id)).2).map Record.id =
        (stale :: rest).map Record.id := by
      rw [after, List.map_map]
      exact List.map_congr_left fun r _ => Provider.readdress_id r
    have moved : { stale with address := t.address } ∈ t.held (p.perform (t.update stale.id)).2 := by
      rw [after]
      exact List.mem_map.mpr ⟨stale, List.mem_cons_self, if_pos rfl⟩
    rw [Provider.performAll_cons, performAll_deletes]
    refine ⟨work.asideFrom.without (others stale.id), { stale with address := t.address }, ?_, ?_⟩
    · exact held_without_others ids distinct moved
    · have none : (stale :: rest).find? (·.address = t.address) = none :=
        List.find?_eq_none.mpr (by simpa using absent)
      unfold IsSurvivor
      rw [none]
  | create =>
    have work : p.ChangesRecords t.create t.key fun record => (· ++ [record]) :=
      Provider.changesRecords_create ofFamily
    have after := work.here _ rfl
    have empty : p.recordsOf t.zone t.domain.print t.family = [] := held
    rw [empty, List.nil_append] at after
    exact ⟨work.asideFrom, _, after, rfl, rfl⟩

end Target.Plans

theorem Target.IsSurvivor.address (survives : t.IsSurvivor L r) : r.address = t.address := by
  unfold IsSurvivor at survives
  split at survives
  · next first =>
    have address := List.find?_some first
    exact survives ▸ of_decide_eq_true address
  · rw [survives]
  · exact survives.1

variable {zone : String} {domain : Domain} {family : Family} {address : Address}
  {attributes : Attributes} {report : Report}

theorem Reached.plans (reached : Reached t s es report s') (smooth : Untroubled es) :
    t.Plans (t.held s.provider) (changes es) := by
  obtain ⟨es, es', outcome, stopped, s₁, s', found, quiet, run⟩ := reached
  have smooth := (untroubled_append.mp (untroubled_cons.mp smooth).2).2
  have plans := ensures_converge_plans t s₁ _ _ _ run smooth
  have read : changes es = [] := changes_eq_nil fun m mem => (quiet.moments m mem).1
  have asked : changes (.stopAsked false :: (es ++ es')) = changes es' := by
    rw [← List.singleton_append, changes_append, changes_append, read]
    rfl
  rw [asked]
  rwa [quiet.provider] at plans

/-- Publishing in whose way nothing comes takes as few changes as any calls that leave one record
with the address; it leaves the record that is to survive, deletes in the order of the listing, and
changes nothing else. -/
theorem publish_is_least (h : s.Coherent) (ofFamily : address.family = family)
    (owned : s.provider.ownerOf domain = .ok zone)
    (distinct : ((s.provider.recordsOf zone domain.print family).map Record.id).Nodup)
    (within : ∀ r ∈ s.provider.recordsOf zone domain.print family,
      s.provider.RecordWithin r.id zone domain.print family)
    (run : Sync.Runs (publish domain family address attributes) s es report s')
    (smooth : Untroubled es) :
    let L := s.provider.recordsOf zone domain.print family
    (changes es).length = (if L.any (·.address = address) then L.length - 1
      else if L = [] then 1 else L.length) ∧
    IsLeast {n | ∃ cs : List Call, cs.length = n ∧ ∃ r, r.address = address ∧
      (s.provider.performAll cs).recordsOf zone domain.print family = [r]} (changes es).length ∧
    (∃ r, s'.provider.recordsOf zone domain.print family = [r] ∧
      Target.IsSurvivor ⟨zone, domain, family, address, attributes⟩ L r) ∧
    (deletions es).Sublist (L.map Record.id) ∧
    s.provider.AsideFrom ⟨zone, domain, family⟩ s'.provider := by
  intro L
  let t : Target := ⟨zone, domain, family, address, attributes⟩
  have reached : Reached t s es report s' :=
    ensures_publish_reached (h.toZonesCoherent.zonesTrue domain) (h.recordsTrue t.key) ofFamily
      owned _ _ _ run smooth
  have plans : t.Plans L (changes es) := reached.plans smooth
  have ended := run.performAll smooth
  obtain ⟨aside, r, alone, survives⟩ := plans.reaches rfl ofFamily distinct within
  have length := plans.length_eq distinct
  have nearest : (changes es).length = t.distance s.provider :=
    length.trans (Target.distance_eq (t := t) distinct).symm
  rw [ended, deletions_eq]
  refine ⟨length, ⟨⟨changes es, rfl, r, survives.address, alone⟩, ?_⟩, ⟨r, alone, survives⟩,
    plans.deleted_sublist, aside⟩
  rintro n ⟨cs, rfl, r', met, only⟩
  have arrived : t.distance (s.provider.performAll cs) = 0 := Target.distance_of_held only met
  calc (changes es).length = t.distance s.provider := nearest
    _ ≤ cs.length + t.distance (s.provider.performAll cs) := t.distance_le_length s.provider cs
    _ = cs.length := by rw [arrived, Nat.add_zero]

def outmoded : World where
  provider.zones := [⟨"z", "example.com", .active⟩]
  provider.records := [⟨"z", "www.example.com", ⟨"a", .v4 2, { proxied := true }⟩⟩,
    ⟨"z", "mail.example.com", ⟨"m", .v4 2, {}⟩⟩, ⟨"z", "www.example.com", ⟨"b", .v4 3, {}⟩⟩]
  caches := .empty 60000

theorem publish_is_least_outmoded : ∃ es report s',
    Sync.Runs (publish (.plain "www.example.com") .v4 (.v4 1) {}) outmoded.scene es report s' ∧
      IsLeast {n | ∃ cs : List Call, cs.length = n ∧ ∃ r, r.address = .v4 1 ∧
        (outmoded.provider.performAll cs).recordsOf "z" "www.example.com" .v4 = [r]} 2 ∧
      s'.provider.recordsOf "z" "www.example.com" .v4 = [⟨"a", .v4 1, { proxied := true }⟩] ∧
      s'.provider.recordsOf "z" "mail.example.com" .v4 = [⟨"m", .v4 2, {}⟩] := by
  let www : Domain := .plain "www.example.com"
  have calm : outmoded.Calm := ⟨rfl, rfl, rfl⟩
  have run := World.runs_trace (publish www .v4 (.v4 1) {}) calm.undisturbed
  have smooth := ((calm.run (onlyCalls_publish www .v4 (.v4 1) {})).2 (by decide)).2
  have owned : outmoded.provider.ownerOf www = .ok "z" := by decide
  obtain ⟨length, least, ⟨r, alone, survives⟩, _, aside⟩ :=
    publish_is_least Scene.coherentOn_empty rfl owned (by decide) (by decide) run smooth
  have survivor : r = ⟨"a", .v4 1, { proxied := true }⟩ := survives
  have two : (changes (outmoded.trace (publish www .v4 (.v4 1) {}))).length = 2 := length
  rw [two] at least
  refine ⟨_, _, _, run, least, survivor ▸ alone, ?_⟩
  exact aside.elsewhere "z" "mail.example.com" .v4 (by decide)

end Reconcile

end AddressSync
