import AddressSync.Directory.Records
import AddressSync.Proofs.Surroundings.Scene
import Mathlib.Data.List.Nodup

/-! The records that the provider lists for a family at a name, and what each call makes of them.
Every change is stated for the listing of an arbitrary place at once; that it leaves other places
alone then follows from where the changed record lies. -/

namespace AddressSync.Simulation.Provider

open Directory (readdress)

variable {p p' : Provider} {c : Call} {zone name id : String} {family : Family} {address : Address}

def RecordsDistinct (p : Provider) : Prop := (p.records.map (·.record.id)).Nodup

instance : Decidable p.RecordsDistinct := inferInstanceAs (Decidable (List.Nodup _))

def RecordWithin (p : Provider) (id zone name : String) (family : Family) : Prop :=
  ∀ r ∈ p.records, r.record.id = id → r.zone = zone ∧ r.name = name ∧ r.record.address.family = family

instance : Decidable (p.RecordWithin id zone name family) :=
  inferInstanceAs (Decidable (∀ r ∈ p.records, _))

theorem Ends.either {reply : Except Failure c.Reply} (h : p.Ends c reply p') :
    p' = p ∨ p' = (p.perform c).2 := by
  cases h with
  | performed => exact .inr rfl
  | lost e => exact .inl rfl
  | unheard e => exact .inr rfl

theorem Ends.of_ok {x : c.Reply} (h : p.Ends c (.ok x) p') :
    (p.perform c).1 = .ok x ∧ p' = (p.perform c).2 := by
  generalize replied : Except.ok x = reply at h
  cases h with
  | performed => exact ⟨rfl, rfl⟩
  | lost e => cases replied
  | unheard e => cases replied

theorem Ends.preserves {P : Provider → Prop} {reply : Except Failure c.Reply} (h : p.Ends c reply p')
    (before : P p) (work : P (p.perform c).2) : P p' := by
  rcases h.either with rfl | rfl
  · exact before
  · exact work

theorem perform_of_reads (h : c.isMutation = false) : (p.perform c).2 = p := by
  cases c with
  | listZones name | listRecords zone domain family | listLists account | listItems account id => rfl
  | _ => cases h

theorem Ends.of_reads {reply : Except Failure c.Reply} (h : p.Ends c reply p')
    (reads : c.isMutation = false) : p' = p := by
  rcases h.either with same | same
  · exact same
  · rw [same, perform_of_reads reads]

theorem mem_recordsOf {r : Record} :
    r ∈ p.recordsOf zone name family ↔ ⟨zone, name, r⟩ ∈ p.records ∧ r.address.family = family := by
  simp only [recordsOf, List.mem_map, List.mem_filter, Bool.and_eq_true, decide_eq_true_eq]
  constructor
  · rintro ⟨⟨z, n, r⟩, ⟨mem, ⟨rfl, rfl⟩, rfl⟩, rfl⟩
    exact ⟨mem, rfl⟩
  · rintro ⟨mem, rfl⟩
    exact ⟨_, ⟨mem, ⟨rfl, rfl⟩, rfl⟩, rfl⟩

theorem recordsOf_nodup (distinct : p.RecordsDistinct) :
    ((p.recordsOf zone name family).map Record.id).Nodup := by
  rw [recordsOf, List.map_map]
  exact distinct.sublist (List.Sublist.map _ List.filter_sublist)

theorem RecordsDistinct.recordWithin {r : Record} (distinct : p.RecordsDistinct)
    (listed : r ∈ p.recordsOf zone name family) : p.RecordWithin r.id zone name family := by
  intro r' mem same
  obtain ⟨placed, ofFamily⟩ := mem_recordsOf.mp listed
  have equal : r' = ⟨zone, name, r⟩ := List.inj_on_of_nodup_map distinct mem placed same
  subst equal
  exact ⟨rfl, rfl, ofFamily⟩

theorem RecordWithin.not_mem_elsewhere {zone' name' : String} {family' : Family}
    (within : p.RecordWithin id zone name family)
    (other : ¬ (zone' = zone ∧ name' = name ∧ family' = family)) :
    ∀ r ∈ p.recordsOf zone' name' family', r.id ≠ id := by
  intro r mem same
  obtain ⟨placed, ofFamily⟩ := mem_recordsOf.mp mem
  obtain ⟨sameZone, sameName, sameFamily⟩ := within _ placed same
  exact other ⟨sameZone, sameName, ofFamily.symm.trans sameFamily⟩

theorem readdress_id (r : Record) : (readdress id address r).id = r.id := by
  unfold readdress
  split <;> rfl

theorem readdress_of_ne {r : Record} (other : r.id ≠ id) : readdress id address r = r := if_neg other

theorem map_readdress_of_absent {rs : List Record} (absent : ∀ r ∈ rs, r.id ≠ id) :
    rs.map (readdress id address) = rs := by
  refine (List.map_congr_left fun r mem => ?_).trans (List.map_id rs)
  exact readdress_of_ne (absent r mem)

theorem filter_ne_of_absent {rs : List Record} (absent : ∀ r ∈ rs, r.id ≠ id) :
    rs.filter (·.id ≠ id) = rs := by
  refine List.filter_eq_self.mpr fun r mem => ?_
  exact decide_eq_true (absent r mem)

theorem filter_cons_of_nodup {r : Record} {rs : List Record}
    (distinct : ((r :: rs).map Record.id).Nodup) : (r :: rs).filter (·.id ≠ r.id) = rs := by
  obtain ⟨new, _⟩ := List.nodup_cons.mp distinct
  rw [List.filter_cons_of_neg (by simp)]
  refine filter_ne_of_absent fun r' mem same => new ?_
  exact List.mem_map.mpr ⟨r', mem, same⟩

theorem readdressFirst_getD {rs : List PlacedRecord}
    (unique : rs.Pairwise fun r r' => r.record.id = id → r'.record.id ≠ id) :
    (readdressFirst id address rs).getD rs =
      rs.map fun r => { r with record := readdress id address r.record } := by
  induction rs with
  | nil => rfl
  | cons r rs ih =>
    obtain ⟨alone, unique⟩ := List.pairwise_cons.mp unique
    rw [readdressFirst, List.map_cons]
    by_cases same : r.record.id = id
    · have others : rs.map (fun r => { r with record := readdress id address r.record }) = rs := by
        refine (List.map_congr_left fun r' mem => ?_).trans (List.map_id rs)
        rw [readdress_of_ne (alone r' mem same), id_eq]
      rw [if_pos same, Option.getD_some, others, readdress, if_pos same]
    · rw [if_neg same, readdress_of_ne same, ← ih unique]
      cases readdressFirst id address rs <;> rfl

theorem mem_readdressFirst_iff {r : PlacedRecord} {rs rs' : List PlacedRecord}
    (changed : readdressFirst id address rs = some rs')
    (other : r.record.id ≠ id) : r ∈ rs' ↔ r ∈ rs := by
  induction rs generalizing rs' with
  | nil => cases changed
  | cons first rest ih =>
    rw [readdressFirst] at changed
    split at changed
    · next same =>
      cases changed
      have before : r ≠ first := fun here => other (here ▸ same)
      have after : r ≠ { first with record := { first.record with address } } :=
        fun here => other (here ▸ same)
      rw [List.mem_cons, List.mem_cons, or_iff_right before, or_iff_right after]
    · obtain ⟨rest', later, rfl⟩ := Option.map_eq_some_iff.mp changed
      rw [List.mem_cons, List.mem_cons, ih later]

theorem records_updateRecord_within {zone' : String} {domain : Domain} {family' : Family}
    (within : p.RecordWithin id zone name family)
    (distinct : ((p.recordsOf zone name family).map Record.id).Nodup) :
    (p.perform (.updateRecord zone' domain family' id address)).2.records =
      p.records.map fun r => { r with record := readdress id address r.record } := by
  rw [recordsOf, List.map_map, List.nodup_iff_pairwise_ne, List.pairwise_map,
    List.pairwise_filter] at distinct
  have unique : p.records.Pairwise fun r r' => r.record.id = id → r'.record.id ≠ id := by
    refine distinct.imp_of_mem fun {r r'} mem mem' other same same' => ?_
    have here := within r mem same
    have here' := within r' mem' same'
    exact other (by simpa using and_assoc.mpr here) (by simpa using and_assoc.mpr here')
      (same.trans same'.symm)
  rw [← readdressFirst_getD unique, perform]
  cases readdressFirst id address p.records <;> rfl

theorem records_updateRecord {zone' : String} {domain : Domain} (distinct : p.RecordsDistinct) :
    (p.perform (.updateRecord zone' domain family id address)).2.records =
      p.records.map fun r => { r with record := readdress id address r.record } := by
  have unique : p.records.Pairwise fun r r' => r.record.id = id → r'.record.id ≠ id :=
    (List.pairwise_map.mp distinct).imp fun other same same' => other (same.trans same'.symm)
  rw [← readdressFirst_getD unique, perform]
  cases readdressFirst id address p.records <;> rfl

theorem recordsOf_deleteRecord {zone' : String} :
    (p.perform (.deleteRecord zone' id)).2.recordsOf zone name family =
      (p.recordsOf zone name family).filter (·.id ≠ id) := by
  have filtered (p : Provider) : ({ p with records := p.records.filter (·.record.id ≠ id) }).recordsOf
      zone name family = (p.recordsOf zone name family).filter (·.id ≠ id) := by
    simp only [recordsOf, List.filter_map, List.filter_filter]
    congr 1
    refine List.filter_congr fun r _ => ?_
    exact Bool.and_comm ..
  rw [perform]
  by_cases found : p.records.any (·.record.id = id)
  · rw [if_pos found]
    exact filtered p
  · rw [if_neg found]
    refine (filter_ne_of_absent fun r mem same => found ?_).symm
    exact List.any_eq_true.mpr ⟨_, (mem_recordsOf.mp mem).1, decide_eq_true same⟩

theorem recordsOf_createRecord {zone' : String} {domain : Domain} {family' : Family}
    {attributes : Attributes} :
    (p.perform (.createRecord zone' domain family' address attributes)).2.recordsOf zone name family =
      p.recordsOf zone name family ++
        if zone' = zone ∧ domain.print = name ∧ address.family = family
        then [⟨s!"rec-{p.made + 1}", address, attributes⟩] else [] := by
  simp only [perform, recordsOf, List.filter_append, List.map_append]
  congr 1
  by_cases here : zone' = zone ∧ domain.print = name ∧ address.family = family
  · obtain ⟨rfl, rfl, rfl⟩ := here
    simp
  · rw [if_neg here]
    simpa [and_assoc] using here

theorem RecordWithin.createRecord {domain : Domain} {family' : Family} {attributes : Attributes}
    (h : p.RecordWithin id zone domain.print family) (ofFamily : address.family = family) :
    (p.perform (.createRecord zone domain family' address attributes)).2.RecordWithin id zone
      domain.print family := by
  intro r mem same
  rcases List.mem_append.mp mem with mem | mem
  · exact h r mem same
  · rw [List.mem_singleton.mp mem]
    exact ⟨rfl, rfl, ofFamily⟩

theorem RecordWithin.updateRecord {zone' : String} {domain : Domain} {family' : Family} {id' : String}
    (h : p.RecordWithin id zone name family) (distinct : p.RecordsDistinct)
    (ofFamily : address.family = family) :
    (p.perform (.updateRecord zone' domain family' id' address)).2.RecordWithin id zone name
      family := by
  intro r mem same
  rw [records_updateRecord distinct] at mem
  obtain ⟨r, held, rfl⟩ := List.mem_map.mp mem
  rw [readdress_id] at same
  obtain ⟨sameZone, sameName, sameFamily⟩ := h r held same
  refine ⟨sameZone, sameName, ?_⟩
  unfold readdress
  split
  · exact ofFamily
  · exact sameFamily

/-- A call that updates a record of one place readdresses it there; as no other listing has it,
this is what becomes of every listing. -/
theorem recordsOf_updateRecord_within {zone' name' : String} {domain : Domain} {family' : Family}
    (within : p.RecordWithin id zone' name' address.family)
    (distinct : ((p.recordsOf zone' name' address.family).map Record.id).Nodup) :
    (p.perform (.updateRecord zone' domain family' id address)).2.recordsOf zone name family =
      (p.recordsOf zone name family).map (readdress id address) := by
  rw [recordsOf, records_updateRecord_within within distinct, List.filter_map, recordsOf,
    List.map_map, List.map_map]
  have sameRecords : (PlacedRecord.record ∘ fun r : PlacedRecord =>
      { r with record := readdress id address r.record }) =
        readdress id address ∘ PlacedRecord.record := rfl
  rw [sameRecords]
  congr 1
  refine List.filter_congr fun r mem => ?_
  have sameFamily : (readdress id address r.record).address.family = r.record.address.family := by
    unfold readdress
    split
    · next same => exact (within r mem same).2.2.symm
    · rfl
  simp only [Function.comp_apply, sameFamily]

theorem recordsOf_updateRecord {zone' name' : String} {domain : Domain} {family' : Family}
    (distinct : p.RecordsDistinct) (within : p.RecordWithin id zone' name' address.family) :
    (p.perform (.updateRecord zone' domain family' id address)).2.recordsOf zone name family =
      (p.recordsOf zone name family).map (readdress id address) :=
  recordsOf_updateRecord_within within (recordsOf_nodup distinct)

end AddressSync.Simulation.Provider
