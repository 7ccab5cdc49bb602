import AddressSync.Proofs.Reconcile.Straying

/-! Two runs from one scene, among faults that differ only in what regards the records of one name. Each
piece of work, on the name or not, leaves them with the like of each other but for that name: what goes
by two identifiers then was there before under one, or came since. -/

namespace AddressSync

open Sync Simulation

open List (Forall₂)

namespace Simulation

def Kind.Awaits (kind : Kind) (made : Nat) (target : String) : Prop :=
  match kind with
  | .updateRecord | .deleteRecord => ToCome "rec-" made target
  | .deleteList | .listItems | .createItems | .deleteItems | .replaceItems =>
    ToCome "list-" made target
  | .listZones | .listRecords | .createRecord | .listLists | .createList => False

namespace Provider

def Regards (p : Provider) (name : String) (kind : Kind) (target : String) : Prop :=
  match kind with
  | .listRecords | .createRecord => target = name
  | .updateRecord | .deleteRecord => target ∈ p.idsOf name
  | _ => False

/-- Faults that do not wear off, each for one target that is no identifier still to be given. Calls that
do not regard the records of the name meet the same of them here and there. -/
structure DifferOn (p : Provider) (name : String) (F F' : List Fault) : Prop where
  lasting : ∀ f ∈ F ++ F', f.left = none
  targeted : ∀ f ∈ F ++ F', ∃ target, f.target = some target ∧ ¬ f.kind.Awaits p.made target
  elsewhere : ∀ kind target, ¬ p.Regards name kind target →
    struck? F kind target = struck? F' kind target

variable {p : Provider} {name target target' : String} {F F' : List Fault} {kind : Kind}

theorem DifferOn.symm (h : p.DifferOn name F F') : p.DifferOn name F' F where
  lasting f mem := h.lasting f (List.mem_append.mpr (List.mem_append.mp mem).symm)
  targeted f mem := h.targeted f (List.mem_append.mpr (List.mem_append.mp mem).symm)
  elsewhere kind target other := (h.elsewhere kind target other).symm

theorem DifferOn.fate?_eq (h : p.DifferOn name F F') (other : ¬ p.Regards name kind target) :
    fate? F kind target = fate? F' kind target := by
  rw [fate?, fate?, h.elsewhere kind target other]

theorem DifferOn.unstruck (h : p.DifferOn name F F') (awaits : kind.Awaits p.made target) :
    fate? F kind target = none := by
  refine congrArg (Option.map Fault.effective) (List.find?_eq_none.mpr fun f mem hit => ?_)
  obtain ⟨_, only, given⟩ := h.targeted f (List.mem_append_left _ mem)
  simp only [Fault.hits, only, Option.all_some, Bool.and_eq_true, decide_eq_true_eq,
    beq_iff_eq] at hit
  obtain ⟨⟨rfl, rfl⟩, _⟩ := hit
  exact given awaits

theorem DifferOn.fate?_awaited (h : p.DifferOn name F F') (awaits : kind.Awaits p.made target)
    (awaits' : kind.Awaits p.made target') : fate? F kind target = fate? F' kind target' := by
  rw [h.unstruck awaits, h.symm.unstruck awaits']

end Provider

namespace Twins

variable {T : Twins} {p : Provider} {name : String} {F F' : List Fault} {made made' now now' : Nat}

/-- What goes together is one identifier that is not of the name, or came since. -/
structure Stems (T : Twins) (p : Provider) (name : String) : Prop where
  records : ∀ id id', T.records id id' →
    id = id' ∧ id ∉ p.idsOf name ∨ ToCome "rec-" p.made id ∧ ToCome "rec-" p.made id'
  lists : ∀ id id', T.lists id id' →
    id = id' ∨ ToCome "list-" p.made id ∧ ToCome "list-" p.made id'

theorem Stems.renew (h : T.Stems p name) (le : p.made ≤ now) (le' : p.made ≤ now') :
    (T.renew made made' now now').Stems p name where
  records id id' related := by
    rcases related with ⟨related, _, _⟩ | ⟨n, some, rfl, rfl⟩
    · exact h.records id id' related
    · exact .inr ⟨⟨_, by omega, rfl⟩, _, by omega, rfl⟩
  lists id id' related := by
    rcases related with ⟨related, _, _⟩ | ⟨n, some, rfl, rfl⟩
    · exact h.lists id id' related
    · exact .inr ⟨⟨_, by omega, rfl⟩, _, by omega, rfl⟩

theorem Stems.fated (h : T.Stems p name) (differ : p.DifferOn name F F') : T.Fated name F F' where
  named kind mem target := by
    simp only [List.mem_cons, List.not_mem_nil, or_false] at mem
    rcases mem with rfl | rfl | rfl <;> exact differ.fate?_eq not_false
  placed kind mem target other := by
    simp only [List.mem_cons, List.not_mem_nil, or_false] at mem
    rcases mem with rfl | rfl <;> exact differ.fate?_eq other
  records kind mem id id' related := by
    simp only [List.mem_cons, List.not_mem_nil, or_false] at mem
    rcases h.records id id' related with ⟨rfl, other⟩ | ⟨new, new'⟩
    · rcases mem with rfl | rfl <;> exact differ.fate?_eq other
    · rcases mem with rfl | rfl <;> exact differ.fate?_awaited new new'
  lists kind mem id id' related := by
    simp only [List.mem_cons, List.not_mem_nil, or_false] at mem
    rcases h.lists id id' related with rfl | ⟨new, new'⟩
    · rcases mem with rfl | rfl | rfl <;> exact differ.fate?_eq not_false
    · rcases mem with rfl | rfl | rfl <;> exact differ.fate?_awaited new new'

def first (p : Provider) (name : String) : Twins where
  records id id' := id = id' ∧ id ∉ p.idsOf name
  lists := Eq
  items := Eq

theorem proper_first : (first p name).Proper where
  records := ⟨fun _ _ _ h h' => h.1.trans h'.1.symm, fun _ _ _ h h' => h.1.symm.trans h'.1⟩
  lists := ⟨fun _ _ _ h h' => h.trans h'.symm, fun _ _ _ h h' => h.symm.trans h'⟩
  items := ⟨fun _ _ _ h h' => h.trans h'.symm, fun _ _ _ h h' => h.symm.trans h'⟩

theorem stems_first : (first p name).Stems p name where
  records _ _ := .inl
  lists _ _ := .inl

theorem sameRecords_first {records : List Record} (spared : ∀ r ∈ records, r.id ∉ p.idsOf name) :
    Forall₂ (first p name).SameRecord records records :=
  List.forall₂_same.mpr fun r mem => ⟨⟨rfl, spared r mem⟩, rfl, rfl⟩

theorem sameLists_first {lists : List NamedList} : Forall₂ (first p name).SameList lists lists :=
  List.forall₂_same.mpr fun _ _ => ⟨rfl, rfl, rfl, rfl⟩

theorem sameItems_first {items : List ListItem} : Forall₂ (first p name).SameItem items items :=
  List.forall₂_same.mpr fun _ _ => ⟨rfl, rfl⟩

theorem not_mem_idsOf (distinct : p.RecordsDistinct) {r : PlacedRecord} (mem : r ∈ p.records)
    (other : r.name ≠ name) : r.record.id ∉ p.idsOf name := by
  intro held
  obtain ⟨r', mem', same⟩ := List.mem_map.mp held
  obtain ⟨mem', own⟩ := List.mem_filter.mp mem'
  have equal : r' = r := List.inj_on_of_nodup_map distinct mem' mem same
  exact other (equal ▸ of_decide_eq_true own)

theorem alike_first (numbered : p.Numbered) : (first p name).Alike name p p where
  zones := rfl
  records := by
    refine List.forall₂_same.mpr fun r mem => ?_
    obtain ⟨mem, other⟩ := List.mem_filter.mp mem
    have spared := not_mem_idsOf numbered.records_distinct mem (of_decide_eq_true other)
    exact ⟨rfl, rfl, ⟨rfl, spared⟩, rfl, rfl⟩
  lonely id mem id' related := related.2 mem
  lonely' id' mem id related := related.2 (related.1 ▸ mem)
  lists := List.forall₂_same.mpr fun _ _ => ⟨rfl, rfl, rfl, rfl, rfl⟩
  items id id' same := by
    rw [show id = id' from same]
    exact sameItems_first
  numbers := by
    refine ⟨fun n some => ⟨rfl, fun mem => ?_⟩, fun n some => rfl, fun n some => rfl⟩
    obtain ⟨r, held, same⟩ := List.mem_map.mp mem
    exact numbered.not_toCome_record (List.mem_filter.mp held).1 ⟨p.made + n, by omega, same⟩

end Twins

end Simulation

namespace Scene

variable {T : Twins} {p : Provider} {name : String} {F F' : List Fault} {s s' : Scene}

theorem companions_first (orderly : s.Orderly) (apart : s.provider.ItemsApart)
    (differ : s.provider.DifferOn name F F') :
    s.Companions (.first s.provider name) name s.provider.made F F' s := by
  have distinct := orderly.numbered.records_distinct
  refine ⟨⟨Twins.alike_first orderly.numbered, ?_, ?_, ?_, ?_, rfl, fun id id' same => ?_⟩, orderly,
    orderly, apart, apart, Nat.le_refl _, Nat.le_refl _⟩
  · exact Cache.agrees_self fun _ _ _ _ => rfl
  · exact Cache.agrees_self fun _ _ _ _ => rfl
  · refine Cache.agrees_self fun key records other found => Twins.sameRecords_first fun r mem => ?_
    have live := orderly.coherent.records_get? (Nat.le_refl _) found
    rw [live] at mem
    exact Twins.not_mem_idsOf distinct (Provider.mem_recordsOf.mp mem).1 other
  · exact Cache.agrees_self fun _ _ _ _ => Twins.sameLists_first
  · rw [show id = id' from same]
    have fate : fate? F .listItems id' = fate? F' .listItems id' := differ.fate?_eq not_false
    unfold Scene.itemsRead?
    rw [fate]
    cases s.caches.items.get? s.now id' with
    | some items => exact .some Twins.sameItems_first
    | none =>
      cases fate? F' .listItems id' with
      | none => exact .some Twins.sameItems_first
      | some effective => exact .none

def Kindred (p : Provider) (name : String) (F F' : List Fault) (s s' : Scene) : Prop :=
  ∃ T : Twins, T.Proper ∧ T.Stems p name ∧ s.Companions T name p.made F F' s'

theorem kindred_self (orderly : s.Orderly) (apart : s.provider.ItemsApart)
    (differ : s.provider.DifferOn name F F') : s.Kindred s.provider name F F' s :=
  ⟨_, Twins.proper_first, Twins.stems_first, companions_first orderly apart differ⟩

end Scene

/-- Reports about one subject, and the same unless that is the records of the name. -/
structure Report.SameBut (name : String) (r r' : Report) : Prop where
  subject : r.subject = r'.subject
  rest : (∀ family, r.subject ≠ .records name family) → r = r'

namespace Reconcile

open Scene

variable {p : Provider} {name : String} {F F' : List Fault} {domain : Domain}
  (differ : p.DifferOn name F F')

include differ

theorem abreast_publish_kindred (parsed : domain.IsParsed) (family : Family) (address : Address)
    (attributes : Attributes) :
    Abreast F F' (Kindred p name F F') (Report.SameBut name)
      (publish domain family address attributes) (publish domain family address attributes) := by
  rintro s s' ⟨T, proper, stems, h⟩
  have fated := stems.fated differ
  have kept (faults : List Fault) (s : Scene) (h : s.Orderly) :
      (s.run faults (publish domain family address attributes)).2.Orderly := by
    obtain ⟨es, orderly, _⟩ :=
      run_of_ensures faults (ensures_publish_orderly h parsed family address attributes)
    exact orderly
  have ended := kept F s h.orderly
  have ended' := kept F' s' h.orderly'
  -- Work on the name itself may make more in one scene than in the other. From then on what is still to
  -- come goes together anew; elsewhere, what goes together stays.
  by_cases own : domain.print = name
  · obtain ⟨⟨subject, subject'⟩, t, t', parted⟩ :=
      level_publish_own fated own h family address attributes
    have joined := parted.rejoined (fun id new => differ.unstruck new)
      fun id new => differ.symm.unstruck new
    have started := parted.companions
    refine ⟨⟨subject.trans subject'.symm, fun other => absurd subject (other family)⟩, _, ?_, ?_,
      h.after joined ended ended'⟩
    · exact proper.renew parted.strays.provider.made parted.strays'.provider.made
    · exact stems.renew (Nat.le_trans started.made parted.strays.provider.made)
        (Nat.le_trans started.made' parted.strays'.provider.made)
  · obtain ⟨same, twinned⟩ :=
      abreast_publish fated proper own address attributes s s' h.twinned
    exact ⟨⟨congrArg Report.subject same, fun _ => same⟩, T, proper, stems,
      h.after twinned ended ended'⟩

theorem abreast_populate_kindred (target : ListTarget) (sightings : Sightings) :
    Abreast F F' (Kindred p name F F') Eq (populate target sightings) (populate target sightings) := by
  rintro s s' ⟨T, proper, stems, h⟩
  have kept (faults : List Fault) (s : Scene) (h : s.Orderly) :
      (s.run faults (populate target sightings)).2.Orderly := by
    obtain ⟨es, populated⟩ := run_of_ensures faults (ensures_populate h.coherent target sightings)
    exact populated.orderly h
  obtain ⟨same, twinned⟩ := level_populate (stems.fated differ) proper sightings h.twinned
    h.orderly.numbered h.orderly'.numbered
  exact ⟨same, T, proper, stems, h.after twinned (kept F s h.orderly) (kept F' s' h.orderly')⟩

end Reconcile

end AddressSync
