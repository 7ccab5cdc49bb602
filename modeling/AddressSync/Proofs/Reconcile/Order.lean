import AddressSync.Proofs.Reconcile.Upkeep
import AddressSync.Proofs.Reconcile.Withdrawal

/-! Work on the records of a place, and on a list, keeps the provider and the caches in order, however
its calls end; and the only records that it deletes are of the family that it is about. -/

namespace AddressSync

open Sync Simulation Directory Scene

namespace Moment

def DeletesOf (family : Family) : Moment → Prop
  | .called (.deleteRecord _ id) _ before _ =>
    ∀ r ∈ before.records, r.record.id = id → r.record.address.family = family
  | _ => True

theorem deletesOf_of_reads {m : Moment} {family : Family} (reads : ¬ m.Mutates) :
    m.DeletesOf family := by
  unfold DeletesOf
  split
  · exact absurd rfl reads
  · trivial

end Moment

def DeletesOnly (family : Family) (es : List Moment) : Prop := ∀ m ∈ es, m.DeletesOf family

variable {family : Family} {es es' : List Moment}

theorem deletesOnly_nil : DeletesOnly family [] := fun _ mem => absurd mem List.not_mem_nil

theorem deletesOnly_append :
    DeletesOnly family (es ++ es') ↔ DeletesOnly family es ∧ DeletesOnly family es' :=
  List.forall_mem_append

theorem deletesOnly_cons {m : Moment} :
    DeletesOnly family (m :: es) ↔ m.DeletesOf family ∧ DeletesOnly family es :=
  List.forall_mem_cons

theorem Scene.Quiet.deletesOnly {s s' : Scene} (quiet : s.Quiet es s') : DeletesOnly family es :=
  fun m mem => Moment.deletesOf_of_reads (quiet.moments m mem).1

namespace Reconcile

variable {zone : String} {domain : Domain} {address : Address} {attributes : Attributes} {t : Target}
  {rest records : List Record} {s s' : Scene} {progress : Progress}

structure InPlace (zone : String) (domain : Domain) (family : Family) (records : List Record)
    (s : Scene) : Prop where
  orderly : s.Orderly
  within : ∀ r ∈ records, s.provider.RecordWithin r.id zone domain.print family

theorem inPlace_recordsOf (h : s.Orderly) (zone : String) (domain : Domain) (family : Family) :
    InPlace zone domain family (s.provider.recordsOf zone domain.print family) s where
  orderly := h
  within _ mem := h.numbered.records_distinct.recordWithin mem

theorem inPlace_of_located (quiet : s.Quiet es s')
    (orderly : s'.Orderly) (found : some (zone, records) = s.provider.located domain family ∨
      some (zone, records) = none ∧ ∃ m ∈ es, m.Fails) :
    InPlace zone domain family records s' := by
  obtain ⟨_, rfl⟩ := owned_of_located found
  rw [← quiet.provider]
  exact inPlace_recordsOf orderly zone domain family

section

variable (h : InPlace zone domain family records s) (parsed : domain.IsParsed)

include h parsed

theorem InPlace.delete {reply : Except Failure Unit} {record : Record} (mem : record ∈ records)
    (change : s.Change (.deleteRecord zone record.id)
      (fun _ => patchRecords ⟨zone, domain, family⟩ (·.filter (·.id ≠ record.id)))
      (dropRecords ⟨zone, domain, family⟩) es reply s') :
    InPlace zone domain family records s' ∧ DeletesOnly family es := by
  have within := h.within record mem
  have placed : s.provider.Places (.deleteRecord zone record.id) := trivial
  have shrinks : s.provider.Shrinks s'.provider :=
    change.ends.preserves (.refl _) Provider.shrinks_deleteRecord
  refine ⟨⟨?_, fun r mem => shrinks.recordWithin (h.within r mem)⟩, ?_⟩
  · exact h.orderly.change_records parsed placed (Provider.changesRecords_delete within) change
  · rw [change.moments]
    exact deletesOnly_cons.mpr ⟨fun r held same => (within r held same).2.2, deletesOnly_nil⟩

variable (ofFamily : address.family = family)

include ofFamily

theorem InPlace.create {reply : Except Failure Record}
    (change : s.Change (.createRecord zone domain family address attributes)
      (fun record => patchRecords ⟨zone, domain, family⟩ (· ++ [record]))
      (dropRecords ⟨zone, domain, family⟩) es reply s') :
    InPlace zone domain family records s' ∧ DeletesOnly family es := by
  have placed : s.provider.Places (.createRecord zone domain family address attributes) := trivial
  refine ⟨⟨?_, fun r mem => ?_⟩, ?_⟩
  · exact h.orderly.change_records parsed placed (Provider.changesRecords_create ofFamily) change
  · have within := h.within r mem
    exact change.ends.preserves (P := (·.RecordWithin r.id zone domain.print family)) within
      (within.createRecord ofFamily)
  · rw [change.moments]
    exact deletesOnly_cons.mpr ⟨trivial, deletesOnly_nil⟩

theorem InPlace.update {reply : Except Failure Unit} {record : Record} (mem : record ∈ records)
    (change : s.Change (.updateRecord zone domain family record.id address)
      (fun _ => patchRecords ⟨zone, domain, family⟩ (·.map (readdress record.id address)))
      (dropRecords ⟨zone, domain, family⟩) es reply s') :
    InPlace zone domain family records s' ∧ DeletesOnly family es := by
  have distinct := h.orderly.numbered.records_distinct
  have placed : s.provider.Places (.updateRecord zone domain family record.id address) := trivial
  refine ⟨⟨?_, fun r mem => ?_⟩, ?_⟩
  · exact h.orderly.change_records parsed placed
      (Provider.changesRecords_update distinct ofFamily (h.within record mem)) change
  · have within := h.within r mem
    exact change.ends.preserves (P := (·.RecordWithin r.id zone domain.print family)) within
      (within.updateRecord distinct ofFamily)
  · rw [change.moments]
    exact deletesOnly_cons.mpr ⟨trivial, deletesOnly_nil⟩

end

section

variable (parsed : t.domain.IsParsed)

include parsed

theorem ensures_removeRest_inPlace (h : InPlace t.zone t.domain t.family records s)
    (listed : rest ⊆ records) :
    Sync.Ensures (removeRest t progress rest) s fun es _ s' =>
      s'.Orderly ∧ DeletesOnly t.family es := by
  -- Records still to be deleted stay records of the place, whatever became of those before.
  induction rest generalizing progress s with
  | nil => exact Program.ensures_pure_iff.mpr ⟨h.orderly, deletesOnly_nil⟩
  | cons record rest ih =>
    obtain ⟨mem, listed⟩ := List.cons_subset.mp listed
    refine ensures_stopRequested_iff.mpr fun stop => ?_
    cases stop with
    | true =>
      refine ensures_log_iff.mpr (Program.ensures_pure_iff.mpr ⟨h.orderly, ?_⟩)
      exact (quiet_stopAsked true).deletesOnly (s := s)
    | false =>
      refine (ensures_change s).bind fun es reply s' change => ?_
      obtain ⟨placed, deletes⟩ := h.delete parsed mem change
      have next (progress : Progress) : Sync.Ensures (removeRest t progress rest) s'
          fun es' _ s'' => s''.Orderly ∧ DeletesOnly t.family (.stopAsked false :: (es ++ es')) := by
        refine (ih placed listed).mono fun es' _ s'' ⟨orderly, more⟩ => ⟨orderly, ?_⟩
        exact deletesOnly_cons.mpr ⟨trivial, deletesOnly_append.mpr ⟨deletes, more⟩⟩
      cases reply with
      | ok x | error e => exact ensures_log_iff.mpr (next _)

variable (ofFamily : t.address.family = t.family)

include ofFamily

theorem ensures_createOne_inPlace (h : InPlace t.zone t.domain t.family records s) :
    Sync.Ensures (createOne t) s fun es _ s' =>
      InPlace t.zone t.domain t.family records s' ∧ DeletesOnly t.family es := by
  refine (ensures_change s).bind fun es reply s' change => ?_
  have placed := h.create parsed ofFamily change
  cases reply with
  | ok record | error e =>
    refine ensures_log_iff.mpr (Program.ensures_pure_iff.mpr ?_)
    rwa [List.append_nil]

theorem ensures_keepOne_inPlace (h : InPlace t.zone t.domain t.family records s) :
    Sync.Ensures (keepOne t records) s fun es _ s' =>
      InPlace t.zone t.domain t.family records s' ∧ DeletesOnly t.family es := by
  unfold keepOne
  split
  · exact Program.ensures_pure_iff.mpr ⟨h, deletesOnly_nil⟩
  · refine (silent_remarkAttributes _ _ _ _).ensures_bind ?_
    refine (ensures_change s).bind fun es reply s' change => ?_
    have placed := h.update parsed ofFamily List.mem_cons_self change
    cases reply with
    | ok x | error e =>
      refine ensures_log_iff.mpr (Program.ensures_pure_iff.mpr ?_)
      rwa [List.append_nil]
  · exact Program.ensures_pure_iff.mpr ⟨h, deletesOnly_nil⟩

theorem ensures_settle_inPlace (h : InPlace t.zone t.domain t.family records s) :
    Sync.Ensures (settle t records) s fun es _ s' =>
      InPlace t.zone t.domain t.family records s' ∧ DeletesOnly t.family es := by
  refine (ensures_keepOne_inPlace parsed ofFamily h).bind fun es result s' ⟨placed, deletes⟩ => ?_
  obtain ⟨kept?, progress⟩ := result
  cases kept? with
  | some kept =>
    refine Program.ensures_pure_iff.mpr ?_
    rw [List.append_nil]
    exact ⟨placed, deletes⟩
  | none =>
    refine (ensures_createOne_inPlace parsed ofFamily placed).bind
      fun es' created s'' ⟨placed, more⟩ => Program.ensures_pure_iff.mpr ⟨placed, ?_⟩
    rw [List.append_nil]
    exact deletesOnly_append.mpr ⟨deletes, more⟩

theorem ensures_converge_inPlace (h : InPlace t.zone t.domain t.family records s) :
    Sync.Ensures (converge t records) s fun es _ s' => s'.Orderly ∧ DeletesOnly t.family es := by
  refine (ensures_settle_inPlace parsed ofFamily h).bind fun es result s' ⟨placed, deletes⟩ => ?_
  obtain ⟨kept?, progress⟩ := result
  cases kept? with
  | none =>
    refine Program.ensures_pure_iff.mpr ?_
    rw [List.append_nil]
    exact ⟨placed.orderly, deletes⟩
  | some kept =>
    refine (ensures_removeRest_inPlace parsed placed (List.filter_subset_self _)).bind
      fun es' result s'' ⟨orderly, more⟩ => ?_
    refine Silent.ensures_guard (silent_log _ _ _) (Program.ensures_pure_iff.mpr ⟨orderly, ?_⟩)
    rw [List.append_nil]
    exact deletesOnly_append.mpr ⟨deletes, more⟩

end

section

variable (h : s.Orderly) (parsed : domain.IsParsed)

include h

theorem ensures_forgetRecords_orderly (key : RecordsKey) :
    Sync.Ensures (forgetRecords key) s fun _ _ s' => s'.Orderly := by
  rw [← bind_pure (forgetRecords key)]
  refine ensures_revise_iff.mpr fun t later => Program.ensures_pure_iff.mpr ?_
  have passed := h.coherent.pass later
  exact ⟨h.numbered, { passed with records := passed.records.erase fun _ _ _ said => said }⟩

include parsed

/-- What is located is what the provider holds of the place, unless a call failed. -/
theorem ensures_locate_orderly (family : Family) (fresh : Bool) :
    Sync.Ensures (locate domain family fresh) s fun es found s' =>
      s.Quiet es s' ∧ s'.Orderly ∧
        (found = s.provider.located domain family ∨ found = none ∧ ∃ m ∈ es, m.Fails) := by
  have zones := h.coherent.toZonesCoherent.zonesTrue domain
  have live := ensures_locate zones family fresh fun _ _ _ => h.coherent.recordsTrue _
  have listed (zone : String) (s : Scene) (orderly : s.Orderly) :
      Sync.Ensures (listed zone domain family) s fun _ _ s' => s'.Orderly := by
    refine (ensures_records orderly.coherent parsed).bind fun es reply s' reads => ?_
    have after := orderly.reads reads
    cases reply with
    | error e =>
      exact (silent_logIntegrity _ _ _ e).ensures_bind (Program.ensures_pure_iff.mpr after)
    | ok found => exact Program.ensures_pure_iff.mpr after
  have orderly : Sync.Ensures (locate domain family fresh) s fun _ _ s' => s'.Orderly := by
    refine (ensures_owner zones).bind fun es reply s₁ owned => ?_
    have orderly := h.quiet owned.quiet (owned.coherentOn h.coherent)
    cases reply with
    | error e =>
      exact (silent_logIntegrity _ _ _ e).ensures_bind (Program.ensures_pure_iff.mpr orderly)
    | ok zone =>
      cases fresh with
      | false => exact listed zone s₁ orderly
      | true =>
        exact (ensures_forgetRecords_orderly orderly _).bind fun _ _ s₂ orderly =>
          listed zone s₂ orderly
  intro es found s' run
  obtain ⟨quiet, _, found⟩ := live es found s' run
  exact ⟨quiet, orderly _ _ s' run, found⟩

theorem ensures_publish_orderly (family : Family) (address : Address) (attributes : Attributes) :
    Sync.Ensures (publish domain family address attributes) s fun es _ s' =>
      s'.Orderly ∧ DeletesOnly family es := by
  unfold publish
  dsimp only
  split
  · exact ensures_log_iff.mpr (Program.ensures_pure_iff.mpr ⟨h, deletesOnly_nil⟩)
  next ofFamily =>
  have ofFamily : address.family = family := Decidable.not_not.mp ofFamily
  refine ensures_stopRequested_iff.mpr fun stop => ?_
  have asked : s.Quiet [.stopAsked stop] s := quiet_stopAsked stop
  cases stop with
  | true => exact Program.ensures_pure_iff.mpr ⟨h, asked.deletesOnly⟩
  | false =>
    refine (ensures_locate_orderly h parsed family false).bind
      fun es found s' ⟨quiet, orderly, live⟩ => ?_
    have deletes : DeletesOnly family (.stopAsked false :: es) := (asked.trans quiet).deletesOnly
    cases found with
    | none =>
      refine Program.ensures_pure_iff.mpr ⟨orderly, ?_⟩
      rw [List.append_nil]
      exact deletes
    | some found =>
      obtain ⟨zone, records⟩ := found
      have placed := inPlace_of_located quiet orderly live
      refine (ensures_converge_inPlace (t := ⟨zone, domain, family, address, attributes⟩) parsed
        ofFamily placed).bind fun es' result s'' ⟨orderly, more⟩ => ?_
      refine Program.ensures_pure_iff.mpr ⟨orderly, ?_⟩
      rw [List.append_nil]
      exact deletesOnly_append.mpr ⟨deletes, more⟩

end

theorem ensures_removeEach_inPlace {last failed : Bool} {total gone : Nat}
    (h : InPlace zone domain family records s) (parsed : domain.IsParsed) (listed : rest ⊆ records) :
    Sync.Ensures (removeEach zone domain family last total gone failed rest) s fun _ _ s' =>
      s'.Orderly := by
  induction rest generalizing gone failed s with
  | nil => exact Program.ensures_pure_iff.mpr h.orderly
  | cons record rest ih =>
    obtain ⟨mem, listed⟩ := List.cons_subset.mp listed
    refine ensures_stopRequested_iff.mpr fun stop => ?_
    cases stop with
    | true => exact ensures_log_iff.mpr (Program.ensures_pure_iff.mpr h.orderly)
    | false =>
      refine (ensures_change s).bind fun es reply s' change => ?_
      obtain ⟨placed, _⟩ := h.delete parsed mem change
      cases reply with
      | ok x | error e => exact ensures_log_iff.mpr (ih placed listed)

theorem ensures_withdraw_orderly (h : s.Orderly) (parsed : domain.IsParsed) (family : Family)
    (last : Bool) :
    Sync.Ensures (withdraw domain family last) s fun _ _ s' => s'.Orderly := by
  refine ensures_stopRequested_iff.mpr fun stop => ?_
  cases stop with
  | true => exact Program.ensures_pure_iff.mpr h
  | false =>
    refine (ensures_locate_orderly h parsed family last).bind
      fun es found s' ⟨quiet, orderly, live⟩ => ?_
    cases found with
    | none => exact Program.ensures_pure_iff.mpr orderly
    | some found =>
      obtain ⟨zone, records⟩ := found
      have placed := inPlace_of_located quiet orderly live
      cases records with
      | nil => exact ensures_log_iff.mpr (Program.ensures_pure_iff.mpr orderly)
      | cons record rest =>
        refine (ensures_removeEach_inPlace placed parsed (List.Subset.refl _)).bind
          fun es' result s'' orderly => ?_
        exact Program.ensures_pure_iff.mpr orderly

section

variable {target : ListTarget} {id : String} {blocks : List Block} {items : List ListItem}
  {changed done : Bool} {sightings : Sightings} {report : Report}

theorem Added.orderly (h : s.Orderly) (there : ∃ l ∈ s.provider.listsOf target.account, l.id = id)
    (added : Added target id s blocks es done s') : s'.Orderly := by
  have placed (blocks : List Block) : s.provider.Places (addition target id blocks) := there
  cases added with
  | none => exact h
  | added _ _ _ _ _ adds | refused _ _ _ _ _ adds =>
    exact h.change_items (placed _) Provider.changesItems_create adds

theorem Exchanged.orderly {result : Outcome × Bool} (h : s.Orderly)
    (there : ∃ l ∈ s.provider.listsOf target.account, l.id = id)
    (exchanged : Exchanged target id blocks items changed s es result s') : s'.Orderly := by
  have placed (p : Provider) : p.Places (removal target id items) := trivial
  cases exchanged with
  | refused es s' added | added es s' added _ | stopped es s' added _ => exact added.orderly h there
  | removed es es' s₁ s' added _ removes | unremoved es es' e s₁ s' added _ removes =>
    exact (added.orderly h there).change_items (placed _) Provider.changesItems_delete removes

theorem Populated.orderly (h : s.Orderly)
    (populated : Populated (fun key => key.domain.IsParsed) target sightings s es report s') :
    s'.Orderly := by
  cases populated with
  | stopped => exact h
  | unobtained es e s' obtained => exact obtained.orderly h
  | unlisted es es' l created e s₁ s' obtained reads
  | current es es' l created s₁ s' obtained reads => exact (obtained.orderly h).reads reads
  | exchanged es es' es'' l created s₁ s₂ s' outcome stopped obtained reads some exchanged =>
    have named := obtained.named.1
    rw [← reads.quiet.provider] at named
    refine exchanged.orderly ((obtained.orderly h).reads reads) ⟨l, ?_, rfl⟩
    exact (Provider.names_of_find? named).mem

end

end Reconcile

end AddressSync
