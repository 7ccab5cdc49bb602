import AddressSync.Proofs.Provider.Items
import AddressSync.Reconcile.Lists

/-! The changes that are planned for a list lead to what was seen: what it holds after them follows,
family by family, from what it held before, and another plan has nothing left to do. -/

namespace AddressSync

open Simulation Provider

namespace Block

variable {block : Block} {address : Address}

theorem family_of_contains (h : block.contains address) : address.family = block.family :=
  of_decide_eq_true (Bool.and_eq_true_iff.mp h).1

end Block

theorem Address.family_listedBlock (address : Address) :
    address.listedBlock.family = address.family :=
  address.family_keep _

theorem Address.listedBlock_contains (address : Address) : address.listedBlock.contains address := by
  refine Bool.and_eq_true_iff.mpr ⟨decide_eq_true ?_, decide_eq_true rfl⟩
  exact address.family_listedBlock.symm

namespace Reconcile

variable {s : Sightings} {items before after : List ListItem} {family : Family} {block : Block}
  {item : ListItem} {made : Nat}

/-- What becomes of the items of a family, by what was seen of its address. An address of the other
family is as good as none. -/
inductive Follows (before : List ListItem) (family : Family) : Sighting → List ListItem → Prop
  | covered (address : Address) (ofFamily : address.family = family)
    (some : ∃ item ∈ before, item.block.contains address) :
    Follows before family (.seen address) (before.filter (·.block.contains address))
  | added (address : Address) (item : ListItem) (ofFamily : address.family = family)
    (none : ∀ item ∈ before, ¬ item.block.contains address)
    (new : ∀ old ∈ before, old.id ≠ item.id) (block : item.block = address.listedBlock) :
    Follows before family (.seen address) [item]
  | unusable (address : Address) (other : address.family ≠ family) :
    Follows before family (.seen address) (before.filter (·.block.family = family))
  | unknown : Follows before family .unknown (before.filter (·.block.family = family))
  | unmanaged : Follows before family .unmanaged []

theorem family_of_missingFor (h : s.missingFor items family = some block) :
    block.family = family := by
  unfold Sightings.missingFor Sightings.goal at h
  split at h
  · next address goal =>
    split at h
    · cases h
    · cases h
      rw [address.family_listedBlock]
      split at goal
      · cases goal
      · cases goal
      · split at goal
        · next same =>
          cases goal
          exact same
        · cases goal
  · cases h
  · cases h

theorem filter_missing : (s.missing items).filter (·.family = family) =
    (s.missingFor items family).toList := by
  have other {f f' : Family} (ne : f ≠ f') : (s.missingFor items f).toList.filter (·.family = f') =
      [] := by
    refine List.filter_eq_nil_iff.mpr fun block mem same => ne ?_
    rw [← family_of_missingFor (Option.mem_toList.mp mem)]
    exact of_decide_eq_true same
  have own (f : Family) : (s.missingFor items f).toList.filter (·.family = f) =
      (s.missingFor items f).toList := by
    refine List.filter_eq_self.mpr fun block mem => decide_eq_true ?_
    exact family_of_missingFor (Option.mem_toList.mp mem)
  have parts : s.missing items = (s.missingFor items .v4).toList ++ (s.missingFor items .v6).toList := by
    unfold Sightings.missing Family.all
    cases first : s.missingFor items .v4 <;> cases second : s.missingFor items .v6 <;> simp [first, second]
  rw [parts, List.filter_append]
  cases family with
  | v4 => rw [own, other (by decide), List.append_nil]
  | v6 => rw [own, other (by decide), List.nil_append]

theorem map_block_added (made : Nat) (s : Sightings) (items : List ListItem) (family : Family) :
    ((newItems made (s.missing items)).filter (·.block.family = family)).map ListItem.block =
      (s.missingFor items family).toList := by
  have blocks : ((newItems made (s.missing items)).filter (·.block.family = family)).map
      ListItem.block = ((newItems made (s.missing items)).map ListItem.block).filter
        (·.family = family) := by
    rw [List.filter_map]
    rfl
  rw [blocks, map_block_newItems, filter_missing]

theorem added_eq_nil (none : s.missingFor items family = none) :
    (newItems made (s.missing items)).filter (·.block.family = family) = [] := by
  have blocks := map_block_added made s items family
  rw [none, Option.toList_none, List.map_eq_nil_iff] at blocks
  exact blocks

def Sightings.applied (s : Sightings) (made : Nat) (items : List ListItem) : List ListItem :=
  items.filter (!s.isExcess ·) ++ newItems made (s.missing items)

section

variable (goal : s.goal family = .keep)

include goal

theorem isExcess_of_keep (here : item.block.family = family) : s.isExcess item = false := by
  rw [Sightings.isExcess, here, goal]

theorem missingFor_of_keep : s.missingFor items family = none := by
  rw [Sightings.missingFor, goal]

theorem applied_of_keep : (s.applied made items).filter (·.block.family = family) =
    items.filter (·.block.family = family) := by
  rw [Sightings.applied, List.filter_append, added_eq_nil (missingFor_of_keep goal),
    List.append_nil, List.filter_filter]
  refine List.filter_congr fun item _ => ?_
  by_cases here : item.block.family = family
  · simp [here, isExcess_of_keep goal here]
  · simp [here]

end

theorem goal_of_cover {address : Address} (sighted : s.of family = .seen address)
    (ofFamily : address.family = family) : s.goal family = .cover address := by
  rw [Sightings.goal, sighted]
  exact if_pos ofFamily

theorem goal_of_unusable {address : Address} (sighted : s.of family = .seen address)
    (other : address.family ≠ family) : s.goal family = .keep := by
  rw [Sightings.goal, sighted]
  exact if_neg other

theorem goal_of_unknown (sighted : s.of family = .unknown) : s.goal family = .keep := by
  rw [Sightings.goal, sighted]

theorem goal_of_unmanaged (sighted : s.of family = .unmanaged) : s.goal family = .nothing := by
  rw [Sightings.goal, sighted]

theorem kept_of_cover {address : Address} (goal : s.goal family = .cover address)
    (ofFamily : address.family = family) :
    (items.filter (!s.isExcess ·)).filter (·.block.family = family) =
      items.filter (·.block.contains address) := by
  rw [List.filter_filter]
  refine List.filter_congr fun item _ => ?_
  by_cases here : item.block.family = family
  · simp [here, Sightings.isExcess, goal]
  · have apart : item.block.contains address = false := by
      by_contra covers
      have covers := Block.family_of_contains (eq_true_of_ne_false covers)
      exact here (covers.symm.trans ofFamily)
    simp [here, apart]

theorem isExcess_of_contains {address : Address}
    (sighted : s.of item.block.family = .seen address) (covers : item.block.contains address) :
    s.isExcess item = false := by
  rw [Sightings.isExcess, goal_of_cover sighted (Block.family_of_contains covers)]
  exact congrArg not covers

theorem applied_of_nothing (goal : s.goal family = .nothing) :
    (s.applied made items).filter (·.block.family = family) = [] := by
  have none : s.missingFor items family = none := by rw [Sightings.missingFor, goal]
  rw [Sightings.applied, List.filter_append, added_eq_nil none, List.append_nil, List.filter_filter]
  refine List.filter_eq_nil_iff.mpr fun item _ => ?_
  by_cases here : item.block.family = family
  · simp [here, Sightings.isExcess, goal]
  · simp [here]

theorem follows_applied (unnumbered : Unnumbered made items) (family : Family) :
    Follows items family (s.of family) ((s.applied made items).filter (·.block.family = family)) := by
  cases sighted : s.of family with
  | unmanaged =>
    rw [applied_of_nothing (goal_of_unmanaged sighted)]
    exact .unmanaged
  | unknown =>
    rw [applied_of_keep (goal_of_unknown sighted)]
    exact .unknown
  | seen address =>
    by_cases ofFamily : address.family = family
    · have goal := goal_of_cover sighted ofFamily
      rw [Sightings.applied, List.filter_append, kept_of_cover goal ofFamily]
      by_cases some : ∃ item ∈ items, item.block.contains address
      · have none : s.missingFor items family = none := by
          rw [Sightings.missingFor, goal]
          exact if_pos (List.any_eq_true.mpr some)
        rw [added_eq_nil none, List.append_nil]
        exact .covered address ofFamily some
      · have missing : s.missingFor items family = Option.some address.listedBlock := by
          rw [Sightings.missingFor, goal]
          exact if_neg fun any => some (List.any_eq_true.mp any)
        have absent : ∀ item ∈ items, ¬ item.block.contains address :=
          fun item mem covers => some ⟨item, mem, covers⟩
        have blocks := map_block_added made s items family
        rw [missing, Option.toList_some, List.map_eq_singleton_iff] at blocks
        obtain ⟨item, added, block⟩ := blocks
        have mem : item ∈ (newItems made (s.missing items)).filter (·.block.family = family) := by
          rw [added]
          exact List.mem_singleton_self item
        have new : ∀ old ∈ items, old.id ≠ item.id :=
          fun old held => unnumbered.id_ne held (List.mem_filter.mp mem).1
        rw [added, List.filter_eq_nil_iff.mpr absent, List.nil_append]
        exact .added address item ofFamily absent new block
    · rw [applied_of_keep (goal_of_unusable sighted ofFamily)]
      exact .unusable address ofFamily

section

variable (follows : ∀ family,
  Follows before family (s.of family) (after.filter (·.block.family = family)))

include follows

theorem missing_of_follows : s.missing after = [] := by
  refine List.filterMap_eq_nil_iff.mpr fun family _ => ?_
  have result := follows family
  generalize held : after.filter (·.block.family = family) = items at result
  generalize sighted : s.of family = sighting at result
  have mem {item : ListItem} (here : item ∈ items) : item ∈ after := by
    rw [← held] at here
    exact (List.mem_filter.mp here).1
  cases result with
  | covered address ofFamily some =>
    obtain ⟨item, old, covers⟩ := some
    rw [Sightings.missingFor, goal_of_cover sighted ofFamily]
    refine if_pos (List.any_eq_true.mpr ⟨item, mem ?_, covers⟩)
    exact List.mem_filter.mpr ⟨old, covers⟩
  | added address item ofFamily none new block =>
    rw [Sightings.missingFor, goal_of_cover sighted ofFamily]
    refine if_pos (List.any_eq_true.mpr ⟨item, mem (List.mem_singleton_self item), ?_⟩)
    rw [block]
    exact address.listedBlock_contains
  | unusable address other => exact missingFor_of_keep (goal_of_unusable sighted other)
  | unknown => exact missingFor_of_keep (goal_of_unknown sighted)
  | unmanaged => rw [Sightings.missingFor, goal_of_unmanaged sighted]

theorem excess_of_follows : s.excess after = [] := by
  refine List.filter_eq_nil_iff.mpr fun item mem => ?_
  have result := follows item.block.family
  have here : item ∈ after.filter (·.block.family = item.block.family) :=
    List.mem_filter.mpr ⟨mem, decide_eq_true rfl⟩
  generalize after.filter (·.block.family = item.block.family) = items at result here
  generalize sighted : s.of item.block.family = sighting at result
  cases result with
  | covered address ofFamily some =>
    rw [isExcess_of_contains sighted (List.mem_filter.mp here).2]
    exact Bool.false_ne_true
  | added address item' ofFamily none new block =>
    obtain rfl := List.mem_singleton.mp here
    have covers : item.block.contains address := by
      rw [block]
      exact address.listedBlock_contains
    rw [isExcess_of_contains sighted covers]
    exact Bool.false_ne_true
  | unusable address other => simp [isExcess_of_keep (goal_of_unusable sighted other) rfl]
  | unknown => simp [isExcess_of_keep (goal_of_unknown sighted) rfl]
  | unmanaged => cases here

theorem planned_of_follows : s.missing after = [] ∧ s.excess after = [] :=
  ⟨missing_of_follows follows, excess_of_follows follows⟩

end

end Reconcile

end AddressSync
