import AddressSync.Proofs.Provider.Lists
import AddressSync.Proofs.Reconcile.Choice
import Mathlib.Data.Finset.Card

/-! How many calls lie at least between what a provider holds at a place and one record with the
address, whichever calls they are. -/

namespace AddressSync

open Sync Simulation

namespace Simulation.Provider

def performAll (p : Provider) (cs : List Call) : Provider :=
  cs.foldl (fun p c => (p.perform c).2) p

@[simp] theorem performAll_nil (p : Provider) : p.performAll [] = p := rfl

@[simp] theorem performAll_cons (p : Provider) (c : Call) (cs : List Call) :
    p.performAll (c :: cs) = (p.perform c).2.performAll cs := rfl

theorem performAll_append (p : Provider) (cs cs' : List Call) :
    p.performAll (cs ++ cs') = (p.performAll cs).performAll cs' :=
  List.foldl_append

end Simulation.Provider

namespace Reconcile

variable {t : Target} {p p' : Provider} {cs : List Call} {r : Record}

def Target.ids (t : Target) (p : Provider) : Finset String := ((t.held p).map Record.id).toFinset

def Target.IsMet (t : Target) (p : Provider) : Prop := ∃ r ∈ t.held p, r.address = t.address

open Classical in
/-- The number of calls that are needed at least: all records but one have to go, and where none has
the address, one call more is needed for the one that stays. -/
noncomputable def Target.distance (t : Target) (p : Provider) : Nat :=
  if t.IsMet p then (t.ids p).card - 1 else max (t.ids p).card 1

/-- All that a call can do: it takes away one record at most, and none if it is the one to bring the
address. -/
structure Target.Step (t : Target) (p p' : Provider) : Prop where
  loses : ∃ id, t.ids p ⊆ insert id (t.ids p')
  gains : t.IsMet p' → ¬ t.IsMet p → t.ids p ⊆ t.ids p'

theorem Target.mem_ids {id : String} : id ∈ t.ids p ↔ ∃ r ∈ t.held p, r.id = id := by
  simp [ids]

theorem Target.step_of_subset (more : t.held p ⊆ t.held p') : t.Step p p' := by
  have ids : t.ids p ⊆ t.ids p' := by
    intro id mem
    obtain ⟨r, held, rfl⟩ := Target.mem_ids.mp mem
    exact Target.mem_ids.mpr ⟨r, more held, rfl⟩
  exact ⟨⟨t.zone, ids.trans (Finset.subset_insert _ _)⟩, fun _ _ => ids⟩

theorem Target.step_of_same (records : p'.records = p.records) : t.Step p p' := by
  refine Target.step_of_subset fun r mem => ?_
  rwa [held, Provider.recordsOf, records]

theorem Target.step_delete (t : Target) (p : Provider) (zone id : String) :
    t.Step p (p.perform (.deleteRecord zone id)).2 := by
  have held : t.held (p.perform (.deleteRecord zone id)).2 = (t.held p).filter (·.id ≠ id) :=
    Provider.recordsOf_deleteRecord
  refine ⟨⟨id, fun id' mem => ?_⟩, fun met unmet => ?_⟩
  · obtain ⟨r, listed, rfl⟩ := Target.mem_ids.mp mem
    by_cases same : r.id = id
    · exact same ▸ Finset.mem_insert_self _ _
    · refine Finset.mem_insert_of_mem (Target.mem_ids.mpr ⟨r, ?_, rfl⟩)
      rw [held]
      exact List.mem_filter.mpr ⟨listed, decide_eq_true same⟩
  · obtain ⟨r, mem, address⟩ := met
    rw [held] at mem
    exact absurd ⟨r, (List.mem_filter.mp mem).1, address⟩ unmet

theorem Target.step_update (t : Target) (p : Provider) (zone : String) (domain : Domain)
    (family : Family) (id : String) (address : Address) :
    t.Step p (p.perform (.updateRecord zone domain family id address)).2 := by
  rw [Provider.perform]
  cases changed : Provider.readdressFirst id address p.records with
  | none => exact Target.step_of_same rfl
  | some records =>
    have kept : t.ids p ⊆ insert id (t.ids { p with records }) := by
      intro id' mem
      obtain ⟨r, listed, rfl⟩ := Target.mem_ids.mp mem
      by_cases same : r.id = id
      · exact same ▸ Finset.mem_insert_self _ _
      obtain ⟨placed, ofFamily⟩ := Provider.mem_recordsOf.mp listed
      have still := (Provider.mem_readdressFirst_iff changed same).mpr placed
      refine Finset.mem_insert_of_mem (Target.mem_ids.mpr ⟨r, ?_, rfl⟩)
      exact Provider.mem_recordsOf.mpr ⟨still, ofFamily⟩
    refine ⟨⟨id, kept⟩, fun met unmet => ?_⟩
    obtain ⟨r, listed, met⟩ := met
    have same : r.id = id := by
      by_contra other
      obtain ⟨placed, ofFamily⟩ := Provider.mem_recordsOf.mp listed
      have before := (Provider.mem_readdressFirst_iff changed other).mp placed
      exact unmet ⟨r, Provider.mem_recordsOf.mpr ⟨before, ofFamily⟩, met⟩
    rwa [Finset.insert_eq_of_mem (Target.mem_ids.mpr ⟨r, listed, same⟩)] at kept

theorem Target.step_perform (t : Target) (p : Provider) (c : Call) : t.Step p (p.perform c).2 := by
  cases c with
  | listZones | listRecords | listLists | listItems => exact Target.step_of_same rfl
  | createRecord zone domain family address attributes =>
    refine Target.step_of_subset ?_
    rw [held, held, Provider.recordsOf_createRecord]
    exact List.subset_append_left _ _
  | updateRecord zone domain family id address =>
    exact t.step_update p zone domain family id address
  | deleteRecord zone id => exact t.step_delete p zone id
  | deleteList => exact Target.step_of_same rfl
  | deleteItems account id ids =>
    refine Target.step_of_same ?_
    rw [Provider.perform]
    split
    · exact (Provider.changeItems_frame ..).2.1
    · rfl
  | createList | createItems | replaceItems =>
    exact Target.step_of_same (Provider.changeItems_frame ..).2.1

theorem Target.Step.distance_le (step : t.Step p p') : t.distance p ≤ t.distance p' + 1 := by
  obtain ⟨id, loses⟩ := step.loses
  have fewer : (t.ids p).card ≤ (t.ids p').card + 1 :=
    (Finset.card_le_card loses).trans (Finset.card_insert_le _ _)
  have some (met : t.IsMet p') : 0 < (t.ids p').card := by
    obtain ⟨r, mem, _⟩ := met
    exact Finset.card_pos.mpr ⟨r.id, Target.mem_ids.mpr ⟨r, mem, rfl⟩⟩
  have gains := fun met unmet => Finset.card_le_card (step.gains met unmet)
  unfold distance
  split_ifs with before after after
  · have := some after
    omega
  · omega
  · have := some after
    have := gains after before
    omega
  · omega

/-- Each call brings the place nearer to one record with the address by one at most. -/
theorem Target.distance_le_length (t : Target) (p : Provider) (cs : List Call) :
    t.distance p ≤ cs.length + t.distance (p.performAll cs) := by
  induction cs generalizing p with
  | nil => simp
  | cons c cs ih =>
    have step := (t.step_perform p c).distance_le
    have rest := ih (p.perform c).2
    rw [Provider.performAll_cons, List.length_cons]
    omega

theorem Target.distance_of_held (alone : t.held p = [r]) (address : r.address = t.address) :
    t.distance p = 0 := by
  have met : t.IsMet p := ⟨r, alone ▸ List.mem_singleton_self r, address⟩
  rw [distance, if_pos met, ids, alone]
  rfl

theorem Target.distance_eq (distinct : ((t.held p).map Record.id).Nodup) :
    t.distance p = if (t.held p).any (·.address = t.address) then (t.held p).length - 1
      else if t.held p = [] then 1 else (t.held p).length := by
  have card : (t.ids p).card = (t.held p).length := by
    rw [ids, List.toFinset_card_of_nodup distinct, List.length_map]
  have met : t.IsMet p ↔ (t.held p).any (·.address = t.address) := by
    simp [IsMet]
  rw [distance, card]
  simp only [met]
  congr 1
  cases t.held p with
  | nil => rfl
  | cons r rest =>
    rw [if_neg (List.cons_ne_nil r rest), List.length_cons, Nat.max_eq_left (by omega)]

end Reconcile

end AddressSync
