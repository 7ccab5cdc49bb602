import AddressSync.Proofs.Provider.Straying
import AddressSync.Proofs.Reconcile.Likeness
import AddressSync.Proofs.Reconcile.Order

/-! Work on the records of one name changes nothing else at the provider or in the caches, however it
ends. So two scenes that had the like of each other but for that name still have it afterwards, though
the work came to different ends in them. -/

namespace AddressSync

open Sync Simulation Directory

open List (Forall₂)

namespace Scene

variable {name : String} {s s' s'' : Scene} {es : List Moment} {c : Call} {key : RecordsKey}

structure Strays (name : String) (s s' : Scene) : Prop where
  later : s.now ≤ s'.now
  provider : s.provider.Strays name s'.provider
  caches : s'.caches = { s.caches with records := s'.caches.records }
  lifetime : s'.caches.records.lifetime = s.caches.records.lifetime
  cached : ∀ key, key.domain.print ≠ name → ∀ t, s'.now ≤ t →
    s'.caches.records.get? t key = s.caches.records.get? t key

theorem strays_self (name : String) (s : Scene) : s.Strays name s :=
  ⟨Nat.le_refl _, s.provider.strays_self name, rfl, rfl, fun _ _ _ _ => rfl⟩

theorem Strays.trans (first : s.Strays name s') (rest : s'.Strays name s'') : s.Strays name s'' where
  later := Nat.le_trans first.later rest.later
  provider := first.provider.trans rest.provider
  caches := by rw [rest.caches, first.caches]
  lifetime := rest.lifetime.trans first.lifetime
  cached key other t later := by
    rw [rest.cached key other t later, first.cached key other t (Nat.le_trans rest.later later)]

theorem strays_change {change : c.Reply → List Record → List Record}
    {reply : Except Failure c.Reply} (own : key.domain.print = name)
    (work : s.provider.Strays name (s.provider.perform c).2)
    (changed : s.Change c (fun x => patchRecords key (change x)) (dropRecords key) es reply s') :
    s.Strays name s' := by
  obtain ⟨later, _, ends, caches⟩ := changed
  have provider : s.provider.Strays name s'.provider :=
    ends.preserves (s.provider.strays_self name) work
  have ne {key' : RecordsKey} (other : key'.domain.print ≠ name) : key' ≠ key := by
    rintro rfl
    exact other own
  cases reply with
  | ok x =>
    refine ⟨later, provider, by rw [caches]; rfl, by rw [caches]; rfl, fun key' other t after => ?_⟩
    rw [caches]
    exact Cache.get?_modify_of_ne (ne other) after
  | error e =>
    refine ⟨later, provider, by rw [caches]; rfl, by rw [caches]; rfl, fun key' other t after => ?_⟩
    rw [caches]
    exact Cache.get?_erase_of_ne (ne other)

def Spares (name : String) (s : Scene) (records : List Record) : Prop :=
  ∀ r ∈ records, r.id ∉ (s.provider.besides name).map (·.record.id)

theorem Spares.strays {records : List Record} (h : s.Spares name records)
    (strays : s.Strays name s') : s'.Spares name records := by
  unfold Spares
  rw [strays.provider.besides]
  exact h

theorem spares_recordsOf (distinct : s.provider.RecordsDistinct) (zone name : String)
    (family : Family) : s.Spares name (s.provider.recordsOf zone name family) := by
  intro r mem held
  obtain ⟨r', mem', same⟩ := List.mem_map.mp held
  obtain ⟨held, other⟩ := List.mem_filter.mp mem'
  exact of_decide_eq_true other (distinct.recordWithin mem r' held same).2.1

end Scene

namespace Reconcile

open Scene

variable {name : String} {s : Scene} {t : Target} {records rest : List Record} {progress : Progress}

section

variable (own : t.domain.print = name)

include own

theorem ensures_removeRest_strays (spares : s.Spares name rest) :
    Sync.Ensures (removeRest t progress rest) s fun _ _ s' => s.Strays name s' := by
  induction rest generalizing progress s with
  | nil => exact Program.ensures_pure_iff.mpr (s.strays_self name)
  | cons record rest ih =>
    obtain ⟨first, others⟩ := List.forall_mem_cons.mp spares
    refine ensures_stopRequested_iff.mpr fun stop => ?_
    cases stop with
    | true => exact ensures_log_iff.mpr (Program.ensures_pure_iff.mpr (s.strays_self name))
    | false =>
      refine (ensures_change s).bind fun es reply s' change => ?_
      have strays := strays_change own (Provider.strays_deleteRecord first) change
      have next (progress : Progress) : Sync.Ensures (removeRest t progress rest) s'
          fun _ _ s'' => s.Strays name s'' :=
        (ih (Spares.strays others strays)).mono fun _ _ _ more => strays.trans more
      cases reply with
      | ok x | error e => exact ensures_log_iff.mpr (next _)

theorem ensures_createOne_strays :
    Sync.Ensures (createOne t) s fun _ _ s' => s.Strays name s' := by
  refine (ensures_change s).bind fun es reply s' change => ?_
  have strays := strays_change own (Provider.strays_createRecord own) change
  cases reply with
  | ok record | error e => exact ensures_log_iff.mpr (Program.ensures_pure_iff.mpr strays)

theorem ensures_keepOne_strays (spares : s.Spares name records) :
    Sync.Ensures (keepOne t records) s fun _ _ s' => s.Strays name s' := by
  unfold keepOne
  split
  · exact Program.ensures_pure_iff.mpr (s.strays_self name)
  · refine (silent_remarkAttributes _ _ _ _).ensures_bind ?_
    refine (ensures_change s).bind fun es reply s' change => ?_
    have strays := strays_change own
      (Provider.strays_updateRecord (spares _ List.mem_cons_self)) change
    cases reply with
    | ok x | error e => exact ensures_log_iff.mpr (Program.ensures_pure_iff.mpr strays)
  · exact Program.ensures_pure_iff.mpr (s.strays_self name)

theorem ensures_converge_strays (spares : s.Spares name records) :
    Sync.Ensures (converge t records) s fun _ _ s' => s.Strays name s' := by
  have settled : Sync.Ensures (settle t records) s fun _ _ s' => s.Strays name s' := by
    refine (ensures_keepOne_strays own spares).bind fun es result s' strays => ?_
    obtain ⟨kept?, progress⟩ := result
    cases kept? with
    | some kept => exact Program.ensures_pure_iff.mpr strays
    | none =>
      refine (ensures_createOne_strays own).bind fun _ _ s'' more => ?_
      exact Program.ensures_pure_iff.mpr (strays.trans more)
  refine settled.bind fun es result s' strays => ?_
  obtain ⟨kept?, progress⟩ := result
  cases kept? with
  | none => exact Program.ensures_pure_iff.mpr strays
  | some kept =>
    have others : s'.Spares name (records.filter (·.id ≠ kept)) :=
      fun r mem => spares.strays strays r (List.mem_filter.mp mem).1
    refine (ensures_removeRest_strays own others).bind fun _ result s'' more => ?_
    exact Silent.ensures_guard (silent_log _ _ _) (Program.ensures_pure_iff.mpr (strays.trans more))

end

section

variable {domain : Domain} (own : domain.print = name) (h : s.Orderly)

include own h

theorem ensures_listed_strays (zone : String) (family : Family) :
    Sync.Ensures (listed zone domain family) s fun _ found s' =>
      s.Strays name s' ∧ ∀ zone records, found = some (zone, records) → s'.Spares name records := by
  have reads : Sync.Ensures (records zone domain family) s
      (s.Fetches (· = s.provider.recordsOf zone domain.print family)
        fun records now c => { c with records := c.records.set now ⟨zone, domain, family⟩ records }) :=
    ensures_fetch rfl (silent_log _ _ _)
      (fun t value later found => h.coherent.records_get? later found)
      fun reply live => (Except.ok.inj live).symm
  refine reads.bind fun es reply s' fetched => ?_
  have strays : s.Strays name s' := by
    have provider : s.provider.Strays name s'.provider := by
      rw [fetched.quiet.provider]
      exact s.provider.strays_self name
    rcases fetched.caches with same | ⟨value, _, same⟩
    · refine ⟨fetched.quiet.later, provider, ?_, ?_, fun key other t after => ?_⟩ <;> rw [same]
    · refine ⟨fetched.quiet.later, provider, ?_, ?_, fun key other t after => ?_⟩ <;> rw [same]
      · rfl
      · refine Cache.get?_set_of_ne (fun equal => other ?_) after
        rw [equal]
        exact own
  cases reply with
  | error e =>
    exact (silent_logIntegrity _ _ _ e).ensures_bind (Program.ensures_pure_iff.mpr ⟨strays, nofun⟩)
  | ok found =>
    refine Program.ensures_pure_iff.mpr ⟨strays, ?_⟩
    rintro zone' records' ⟨⟩
    rw [fetched.true_of_ok found rfl, own]
    exact (spares_recordsOf h.numbered.records_distinct zone name family).strays strays

theorem ensures_publish_owned (family : Family) (address : Address) (attributes : Attributes)
    (reply : Except Failure String) :
    Sync.Ensures (do
      let subject : Subject := .records domain.print family
      let found ← (match reply with
        | .error e => (do
          logIntegrity "failed to find zone" domain family e
          return none)
        | .ok zone => (do
          if false then Directory.forgetRecords ⟨zone, domain, family⟩
          listed zone domain family) : Sync (Option (String × List Record)))
      match found with
      | none => return (⟨subject, .failed, false⟩ : Report)
      | some (zone, records) => do
        let (outcome, stopped) ← converge ⟨zone, domain, family, address, attributes⟩ records
        return ⟨subject, outcome, stopped⟩) s fun _ report s' =>
      s.Strays name s' ∧ report.subject = .records domain.print family := by
  cases reply with
  | error e =>
    have unknown : Sync.Ensures (do
        logIntegrity "failed to find zone" domain family e
        return (none : Option (String × List Record))) s fun _ found s' => found = none ∧ s' = s :=
      (silent_logIntegrity _ _ _ e).ensures_bind (Program.ensures_pure_iff.mpr ⟨rfl, rfl⟩)
    refine unknown.bind ?_
    rintro es _ _ ⟨rfl, rfl⟩
    exact Program.ensures_pure_iff.mpr ⟨strays_self name _, rfl⟩
  | ok zone =>
    refine (ensures_listed_strays own h zone family).bind fun es found s' ⟨strays, spares⟩ => ?_
    cases found with
    | none => exact Program.ensures_pure_iff.mpr ⟨strays, rfl⟩
    | some found =>
      obtain ⟨zone', records⟩ := found
      refine (ensures_converge_strays own (spares zone' records rfl)).bind fun _ result s'' more => ?_
      exact Program.ensures_pure_iff.mpr ⟨strays.trans more, rfl⟩

end

end Reconcile

namespace Scene

variable {α α' : Type} {T T' : Twins} {name : String} {given : Nat} {F F' : List Fault}
  {s s' u u' : Scene} {p : Sync α} {p' : Sync α'}

theorem run_apart (faults : List Fault) (p : Sync α) (s : Scene) (h : s.provider.ItemsApart) :
    (s.run faults p).2.provider.ItemsApart ∧
      s.provider.made ≤ (s.run faults p).2.provider.made := by
  obtain ⟨es, run⟩ := runs_run faults p s
  refine ⟨(run.throughout (P := (·.ItemsApart)) (fun p c _ _ ends h => ?_) h).1,
    (run.throughout (P := (s.provider.made ≤ ·.made)) (fun p c _ _ ends le => ?_) (Nat.le_refl _)).1⟩
  · exact ends.preserves h (h.perform c)
  · exact ends.preserves (P := (s.provider.made ≤ ·.made)) le (Nat.le_trans le (p.made_le_perform c))

/-- Twinned scenes in which the caches are right and no number is given twice. At least as many numbers
as stated were given. -/
structure Companions (T : Twins) (name : String) (given : Nat) (F F' : List Fault) (s s' : Scene) :
    Prop where
  twinned : s.Twinned T name F F' s'
  orderly : s.Orderly
  orderly' : s'.Orderly
  apart : s.provider.ItemsApart
  apart' : s'.provider.ItemsApart
  made : given ≤ s.provider.made
  made' : given ≤ s'.provider.made

theorem Companions.after (h : s.Companions T name given F F' s')
    (twinned : (s.run F p).2.Twinned T' name F F' (s'.run F' p').2) (orderly : (s.run F p).2.Orderly)
    (orderly' : (s'.run F' p').2.Orderly) :
    (s.run F p).2.Companions T' name given F F' (s'.run F' p').2 := by
  obtain ⟨apart, more⟩ := run_apart F p s h.apart
  obtain ⟨apart', more'⟩ := run_apart F' p' s' h.apart'
  exact ⟨twinned, orderly, orderly', apart, apart', Nat.le_trans h.made more,
    Nat.le_trans h.made' more'⟩

structure Parted (s s' u u' : Scene) (T : Twins) (name : String) (given : Nat) (F F' : List Fault) :
    Prop where
  companions : s.Companions T name given F F' s'
  now : u.now = s.now
  now' : u'.now = s'.now
  strays : s.Strays name u
  strays' : s'.Strays name u'

theorem Orderly.itemsRead? (h : s.Orderly) (faults : List Fault) (id : String) :
    s.itemsRead? faults id = some (s.provider.itemsOf id) ∨
      s.itemsRead? faults id = none ∧ fate? faults .listItems id ≠ none := by
  unfold Scene.itemsRead?
  cases found : s.caches.items.get? s.now id with
  | some items =>
    have live := (h.coherent.items.get? found) ""
    exact .inl (congrArg some (Except.ok.inj live).symm)
  | none => cases fate? faults .listItems id <;> simp

theorem Orderly.itemsRead?_toCome {faults : List Fault} {id : String} (h : s.Orderly)
    (unstruck : fate? faults .listItems id = none) (coming : ToCome "list-" s.provider.made id) :
    s.itemsRead? faults id = some [] := by
  rw [← h.numbered.items_toCome coming]
  exact (h.itemsRead? faults id).resolve_right fun read => read.2 unstruck

theorem Strays.itemsRead? (strays : s.Strays name u) (now : u.now = s.now) (faults : List Fault)
    (id : String) : u.itemsRead? faults id = s.itemsRead? faults id := by
  unfold Scene.itemsRead? Provider.itemsOf
  rw [now, strays.provider.items, strays.caches]

/-- After the parting the scenes are twins once more, with numbers to come that go together anew. -/
theorem Parted.rejoined (h : s.Parted s' u u' T name given F F')
    (unstruck : ∀ id, ToCome "list-" given id → fate? F .listItems id = none)
    (unstruck' : ∀ id, ToCome "list-" given id → fate? F' .listItems id = none) :
    u.Twinned (T.renew s.provider.made s'.provider.made u.provider.made u'.provider.made) name F F'
      u' := by
  obtain ⟨⟨twinned, orderly, orderly', apart, apart', least, least'⟩, now, now', strays, strays'⟩ := h
  have numbered := orderly.numbered
  have numbered' := orderly'.numbered
  refine ⟨twinned.provider.renew numbered numbered' apart apart' strays.provider strays'.provider,
    ?_, ?_, ⟨?_, fun key other => ?_⟩, ⟨?_, fun account known => ?_⟩, ?_, fun id id' related => ?_⟩
  · rw [now, now', strays.caches, strays'.caches]
    exact twinned.zones
  · rw [now, now', strays.caches, strays'.caches]
    exact twinned.owners
  · rw [strays.lifetime, strays'.lifetime]
    exact twinned.records.lifetime
  · rw [strays.cached key other _ (Nat.le_refl _), strays'.cached key other _ (Nat.le_refl _), now,
      now']
    refine (twinned.records.get? key other).imp fun records records' found found' same => ?_
    have live := orderly.coherent.records_get? (Nat.le_refl _) found
    have live' := orderly'.coherent.records_get? (Nat.le_refl _) found'
    exact Twins.records_renew numbered numbered' same _ (fun _ mem => live ▸ mem)
      fun _ mem => live' ▸ mem
  · rw [strays.caches, strays'.caches]
    exact twinned.indexes.lifetime
  · rw [now, now', strays.caches, strays'.caches]
    refine (twinned.indexes.get? account known).imp fun index index' found found' same => ?_
    have live := Except.ok.inj (orderly.coherent.indexes.get? found)
    have live' := Except.ok.inj (orderly'.coherent.indexes.get? found')
    have listed : index.lists ⊆ s.provider.listsOf account := fun l mem => by
      rw [← live] at mem
      exact (ListIndex.mem_ofLists mem).1
    have listed' : index'.lists ⊆ s'.provider.listsOf account := fun l mem => by
      rw [← live'] at mem
      exact (ListIndex.mem_ofLists mem).1
    exact Twins.lists_renew numbered numbered' same listed listed'
  · rw [strays.caches, strays'.caches]
    exact twinned.lifetime
  · rw [strays.itemsRead? now, strays'.itemsRead? now']
    -- Lists from before are read as they were, and those that are to come read as empty in both.
    rcases related with ⟨related, _, _⟩ | ⟨n, some, new, new'⟩
    · have held := twinned.items id id' related
      rcases orderly.itemsRead? F id with read | ⟨read, _⟩ <;>
        rcases orderly'.itemsRead? F' id' with read' | ⟨read', _⟩ <;> rw [read, read'] at held ⊢
      · cases held with
        | some same => exact .some (Twins.items_renew apart apart' same)
      · cases held
      · cases held
      · exact .none
    · have coming : ToCome "list-" s.provider.made id :=
        ⟨_, Nat.lt_of_le_of_lt strays.provider.made (Nat.lt_add_of_pos_right some), new⟩
      have coming' : ToCome "list-" s'.provider.made id' :=
        ⟨_, Nat.lt_of_le_of_lt strays'.provider.made (Nat.lt_add_of_pos_right some), new'⟩
      rw [orderly.itemsRead?_toCome (unstruck id (coming.earlier least)) coming,
        orderly'.itemsRead?_toCome (unstruck' id' (coming'.earlier least')) coming']
      exact .some .nil

end Scene

namespace Reconcile

open Scene

variable {T : Twins} {name : String} {given : Nat} {F F' : List Fault} {s s' : Scene}
  {domain : Domain} (fated : T.Fated name F F')

include fated

theorem level_owner (h : s.Companions T name given F F' s') :
    Level F F' (Companions T name given F F') (Echo Eq) (Directory.owner domain)
      (Directory.owner domain) s s' := by
  obtain ⟨echo, twinned⟩ := Directory.abreast_owner fated domain s s' h.twinned
  have kept (faults : List Fault) (s : Scene) (h : s.Orderly) :
      (s.run faults (Directory.owner domain)).2.Orderly := by
    have zones := h.coherent.toZonesCoherent.zonesTrue domain
    obtain ⟨es, owned⟩ := run_of_ensures faults (Directory.ensures_owner zones)
    exact h.quiet owned.quiet (owned.coherentOn h.coherent)
  exact ⟨echo, h.after twinned (kept F s h.orderly) (kept F' s' h.orderly')⟩

/-- Work on the name itself: the scenes only part once its records are listed. -/
theorem level_publish_own (own : domain.print = name) (h : s.Companions T name given F F' s')
    (family : Family) (address : Address) (attributes : Attributes) :
    Level F F' (fun u u' => ∃ t t' : Scene, t.Parted t' u u' T name given F F')
      (fun r r' => r.subject = .records name family ∧ r'.subject = .records name family)
      (publish domain family address attributes) (publish domain family address attributes) s s' := by
  unfold publish
  dsimp only
  split
  · have subject : Subject.records domain.print family = .records name family := by rw [own]
    exact ⟨⟨subject, subject⟩, s, s', h, rfl, rfl, s.strays_self name, s'.strays_self name⟩
  · refine level_unless_stopped ?_
    rw [locate, bind_assoc]
    refine (level_owner fated h).bind fun reply reply' t t' _ h => ?_
    refine level_of_ensures (ensures_publish_owned own h.orderly family address attributes reply)
      (ensures_publish_owned own h.orderly' family address attributes reply') ?_
    rintro _ _ report report' u u' now now' ⟨strays, subject⟩ ⟨strays', subject'⟩
    rw [own] at subject subject'
    exact ⟨⟨subject, subject'⟩, t, t', h, now, now', strays, strays'⟩

end Reconcile

end AddressSync
