import AddressSync.Proofs.Directory.TwinnedLists
import AddressSync.Proofs.Reconcile.Choice
import AddressSync.Proofs.Reconcile.Population

/-! Two scenes that have the like of each other, but for the records of one name: work on anything else
comes to the same report in both, and leaves them so. -/

namespace AddressSync.Reconcile

open Sync Simulation

open List (Forall₂)

variable {T : Twins} {name : String} {F F' : List Fault} {domain : Domain} {family : Family}
  {t : Target} {records records' : List Record} (fated : T.Fated name F F')

include fated

theorem abreast_locate (other : domain.print ≠ name) :
    Abreast F F' (Scene.Twinned T name F F')
      (Option.Rel fun r r' => r.1 = r'.1 ∧ Forall₂ T.SameRecord r.2 r'.2)
      (locate domain family false) (locate domain family false) := by
  refine (Directory.abreast_owner fated domain).bind fun reply reply' echo => ?_
  rcases echo with ⟨same⟩ | ⟨e, e'⟩
  · subst same
    refine (Directory.abreast_records fated other).bind fun reply reply' echo => ?_
    rcases echo with ⟨same⟩ | ⟨e, e'⟩
    · exact abreast_pure (.some ⟨rfl, same⟩)
    · exact abreast_silent (silent_logIntegrity _ _ _ e) (silent_logIntegrity _ _ _ e')
        (abreast_pure .none)
  · exact abreast_silent (silent_logIntegrity _ _ _ e) (silent_logIntegrity _ _ _ e')
      (abreast_pure .none)

theorem abreast_createOne (other : t.domain.print ≠ name) :
    Abreast F F' (Scene.Twinned T name F F') (Option.Rel T.records) (createOne t) (createOne t) := by
  refine (Directory.abreast_createRecord fated other t.attributes).bind fun reply reply' echo => ?_
  rcases echo with ⟨same⟩ | ⟨e, e'⟩
  · exact abreast_silent (silent_log _ _ _) (silent_log _ _ _) (abreast_pure (.some same.id))
  · exact abreast_silent (silent_log _ _ _) (silent_log _ _ _) (abreast_pure .none)

variable (proper : T.Proper)

include proper

theorem abreast_keepOne (h : Forall₂ T.SameRecord records records') :
    Abreast F F' (Scene.Twinned T name F F') (fun r r' => Option.Rel T.records r.1 r'.1 ∧ r.2 = r'.2)
      (keepOne t records) (keepOne t records') := by
  have found : Option.Rel T.SameRecord (records.find? (·.address = t.address))
      (records'.find? (·.address = t.address)) := by
    refine h.find? fun r r' same => ?_
    rw [same.address]
  unfold keepOne
  generalize records.find? (·.address = t.address) = first at found
  generalize records'.find? (·.address = t.address) = first' at found
  rcases found with same | _
  · exact abreast_pure ⟨.some same.id, rfl⟩
  · cases h with
    | nil => exact abreast_pure ⟨.none, rfl⟩
    | cons same rest =>
      refine abreast_silent (silent_remarkAttributes _ _ _ _) (silent_remarkAttributes _ _ _ _) ?_
      refine (Directory.abreast_updateRecord fated proper same.id).bind fun reply reply' echo => ?_
      rcases echo with ⟨_⟩ | ⟨e, e'⟩
      · exact abreast_silent (silent_log _ _ _) (silent_log _ _ _)
          (abreast_pure ⟨.some same.id, rfl⟩)
      · exact abreast_silent (silent_log _ _ _) (silent_log _ _ _) (abreast_pure ⟨.none, rfl⟩)

theorem abreast_settle (other : t.domain.print ≠ name) (h : Forall₂ T.SameRecord records records') :
    Abreast F F' (Scene.Twinned T name F F') (fun r r' => Option.Rel T.records r.1 r'.1 ∧ r.2 = r'.2)
      (settle t records) (settle t records') := by
  refine (abreast_keepOne fated proper h).bind ?_
  rintro ⟨kept, progress⟩ ⟨kept', progress'⟩ ⟨same, rfl⟩
  rcases same with same | _
  · exact abreast_pure ⟨.some same, rfl⟩
  · exact (abreast_createOne fated other).bind fun made made' same => abreast_pure ⟨same, rfl⟩

theorem abreast_removeRest (progress : Progress) (h : Forall₂ T.SameRecord records records') :
    Abreast F F' (Scene.Twinned T name F F') Eq (removeRest t progress records)
      (removeRest t progress records') := by
  induction h generalizing progress with
  | nil => exact abreast_pure rfl
  | cons same rest ih =>
    refine abreast_unless_stopped ?_
    refine (Directory.abreast_deleteRecord fated proper same.id).bind fun reply reply' echo => ?_
    rcases echo with ⟨_⟩ | ⟨e, e'⟩
    · exact abreast_silent (silent_log _ _ _) (silent_log _ _ _) (ih _)
    · exact abreast_silent (silent_log _ _ _) (silent_log _ _ _) (ih _)

theorem abreast_converge (other : t.domain.print ≠ name)
    (h : Forall₂ T.SameRecord records records') :
    Abreast F F' (Scene.Twinned T name F F') Eq (converge t records) (converge t records') := by
  refine (abreast_settle fated proper other h).bind ?_
  rintro ⟨kept, progress⟩ ⟨kept', progress'⟩ ⟨same, rfl⟩
  rcases same with same | _
  · refine (abreast_removeRest fated proper progress (Twins.filter_records proper same h)).bind ?_
    rintro result _ rfl
    have done : Abreast F F' (Scene.Twinned T name F F') Eq (pure result) (pure result) :=
      abreast_pure rfl
    exact abreast_guard (silent_log _ _ _) (silent_log _ _ _) done
  · exact abreast_pure rfl

theorem abreast_publish (other : domain.print ≠ name) (address : Address) (attributes : Attributes) :
    Abreast F F' (Scene.Twinned T name F F') Eq (publish domain family address attributes)
      (publish domain family address attributes) := by
  unfold publish
  dsimp only
  split
  · exact abreast_silent (silent_log _ _ _) (silent_log _ _ _) (abreast_pure rfl)
  · refine abreast_unless_stopped ((abreast_locate fated other).bind fun found found' same => ?_)
    cases same with
    | none => exact abreast_pure rfl
    | @some found found' same =>
      obtain ⟨zone, records⟩ := found
      obtain ⟨zone', records'⟩ := found'
      obtain ⟨rfl, same⟩ := same
      refine (abreast_converge fated proper other same).bind ?_
      rintro result _ rfl
      exact abreast_pure rfl

section

variable {target : ListTarget} {id id' : String} {items items' : List ListItem} {s s' : Scene}

omit fated proper

theorem missing_congr (sightings : Sightings) (h : Forall₂ T.SameItem items items') :
    sightings.missing items = sightings.missing items' := by
  have covered (items : List ListItem) (address : Address) :
      items.any (·.block.contains address) = (items.map ListItem.block).any (·.contains address) := by
    rw [List.any_map]
    rfl
  unfold Sightings.missing Sightings.missingFor
  simp only [covered, Twins.blocks_eq h]

theorem rel_excess (sightings : Sightings) (h : Forall₂ T.SameItem items items') :
    Forall₂ T.SameItem (sightings.excess items) (sightings.excess items') := by
  refine List.rel_filter (fun item item' same => ?_) h
  have equal : sightings.isExcess item = sightings.isExcess item' := by
    rw [Sightings.isExcess, Sightings.isExcess, same.block]
  exact iff_of_eq (congrArg (· = true) equal)

theorem isEmpty_congr (h : Forall₂ T.SameItem items items') : items.isEmpty = items'.isEmpty := by
  cases h <;> rfl

include fated proper

variable (same : T.lists id id')

include same

theorem abreast_addBatch (blocks : List Block) :
    Abreast F F' (Scene.Twinned T name F F') Eq (addBatch target id blocks)
      (addBatch target id' blocks) := by
  refine (Directory.abreast_addItems fated proper same blocks).bind fun reply reply' echo => ?_
  have logs : Silent (blocks.forM fun block => log .info "added prefix to IP list"
      [("list", .text target.print), ("prefix", .text block.print)]) :=
    silent_forM (fun _ => silent_log _ _ _) blocks
  rcases echo with ⟨_⟩ | ⟨e, e'⟩
  · exact abreast_silent logs logs (abreast_pure rfl)
  · exact abreast_silent (silent_log _ _ _) (silent_log _ _ _) (abreast_pure rfl)

theorem abreast_removeBatch (h : Forall₂ T.SameItem items items') :
    Abreast F F' (Scene.Twinned T name F F') Eq (removeBatch target id items)
      (removeBatch target id' items') := by
  have gone : Forall₂ T.items (items.map ListItem.id) (items'.map ListItem.id) :=
    List.rel_map (fun _ _ same => same.id) h
  have logs (items : List ListItem) : Silent (items.forM fun item =>
      log .info "removed prefix from IP list"
        [("list", .text target.print), ("prefix", .text item.block.print)]) :=
    silent_forM (fun _ => silent_log _ _ _) items
  refine (Directory.abreast_removeItems fated proper same gone).bind fun reply reply' echo => ?_
  rcases echo with ⟨_⟩ | ⟨e, e'⟩
  · exact abreast_silent (logs items) (logs items') (abreast_pure rfl)
  · exact abreast_silent (silent_log _ _ _) (silent_log _ _ _) (abreast_pure rfl)

theorem abreast_exchange (missing : List Block) (h : Forall₂ T.SameItem items items')
    (changed : Bool) :
    Abreast F F' (Scene.Twinned T name F F') Eq (exchange target id missing items changed)
      (exchange target id' missing items' changed) := by
  have removes : Abreast F F' (Scene.Twinned T name F F') Eq
      (do
        if ← removeBatch target id items then return (Outcome.updated, false)
        return (.failed, false))
      (do
        if ← removeBatch target id' items' then return (.updated, false)
        return (.failed, false)) := by
    refine (abreast_removeBatch fated proper same h).bind ?_
    rintro done _ rfl
    cases done <;> exact abreast_pure rfl
  have rest : Abreast F F' (Scene.Twinned T name F F') Eq
      (do
        if items.isEmpty then return (.updated, false)
        if ← stopRequested then
          log .warn "cancelled before removing outdated IP list items" [("list", .text target.print)]
          return (if changed || !missing.isEmpty then Outcome.updated else .failed, true)
        if ← removeBatch target id items then return (.updated, false)
        return (.failed, false))
      (do
        if items'.isEmpty then return (.updated, false)
        if ← stopRequested then
          log .warn "cancelled before removing outdated IP list items" [("list", .text target.print)]
          return (if changed || !missing.isEmpty then .updated else .failed, true)
        if ← removeBatch target id' items' then return (.updated, false)
        return (.failed, false)) := by
    rw [isEmpty_congr h]
    split
    · exact abreast_pure rfl
    · exact abreast_unless_stopped removes
  unfold exchange
  cases missing with
  | nil => exact rest
  | cons block blocks =>
    refine (abreast_addBatch fated proper same (block :: blocks)).bind ?_
    rintro done _ rfl
    cases done with
    | true => exact rest
    | false => exact abreast_pure rfl

end

variable {target : ListTarget} {s s' : Scene}

theorem level_populate (sightings : Sightings) (h : s.Twinned T name F F' s')
    (numbered : s.provider.Numbered) (numbered' : s'.provider.Numbered) :
    Level F F' (Scene.Twinned T name F F') Eq (populate target sightings)
      (populate target sightings) s s' := by
  refine level_unless_stopped ((Directory.level_obtainList fated proper h numbered numbered').bind ?_)
  intro reply reply' t t' echo h
  cases echo with
  | error e e' =>
    have failed : Abreast F F' (Scene.Twinned T name F F') Eq
        (pure ⟨.list target.print, .failed, false⟩ : Sync Report)
        (pure ⟨.list target.print, .failed, false⟩) := abreast_pure rfl
    exact abreast_silent (silent_log _ _ _) (silent_log _ _ _) failed t t' h
  | @ok found found' same =>
    obtain ⟨list, created⟩ := found
    obtain ⟨list', _⟩ := found'
    obtain ⟨same, rfl⟩ := same
    refine abreast_guard (silent_log _ _ _) (silent_log _ _ _) ?_ t t' h
    refine (Directory.abreast_items same.id).bind fun reply reply' echo => ?_
    cases echo with
    | error e e' => exact abreast_silent (silent_log _ _ _) (silent_log _ _ _) (abreast_pure rfl)
    | @ok items items' held =>
      have remarks : Silent (Family.all.forM (remarkKept target.print sightings)) :=
        silent_forM (silent_remarkKept _ _) _
      refine abreast_silent remarks remarks ?_
      dsimp only
      rw [missing_congr sightings held, isEmpty_congr (rel_excess sightings held)]
      split
      · exact abreast_silent (silent_log _ _ _) (silent_log _ _ _) (abreast_pure rfl)
      · refine (abreast_exchange fated proper same.id _ (rel_excess sightings held) _).bind ?_
        rintro result _ rfl
        exact abreast_pure rfl

end AddressSync.Reconcile
