import AddressSync.Proofs.Reconcile.Continuity
import AddressSync.Proofs.Reconcile.Order
import AddressSync.Proofs.Reconcile.Requests

/-! What reconciling leaves alone. Of a family whose items are to be kept, no list loses or gains an
item at any instant: publishing makes no call about items, and what is added to a list or removed from
it is of other families. -/

namespace AddressSync

open Sync Simulation Directory Reconcile

namespace Simulation.Provider

variable {p p' p'' : Provider} {family : Family} {account name description id : String}
  {target : ListTarget} {sightings : Sightings} {items : List ListItem} {c : Call}

def SameItems (p : Provider) (family : Family) (p' : Provider) : Prop :=
  ∀ list, (p'.itemsOf list).filter (·.block.family = family) =
    (p.itemsOf list).filter (·.block.family = family)

theorem SameItems.refl (p : Provider) (family : Family) : p.SameItems family p := fun _ => rfl

theorem SameItems.trans (first : p.SameItems family p') (rest : p'.SameItems family p'') :
    p.SameItems family p'' :=
  fun list => (rest list).trans (first list)

theorem sameItems_of_eq (same : ∀ list, p'.itemsOf list = p.itemsOf list) :
    p.SameItems family p' :=
  fun list => congrArg _ (same list)

theorem sameItems_createList (h : p.Numbered) :
    p.SameItems family (p.perform (.createList account name description)).2 :=
  sameItems_of_eq fun _ => h.itemsOf_ends_create .performed

section

variable (goal : sightings.goal family = .keep)

include goal

theorem sameItems_addition :
    p.SameItems family (p.perform (addition target id (sightings.missing items))).2 := by
  intro list
  rw [itemsOf_createItems]
  split
  · next here =>
    rw [here, List.filter_append, added_eq_nil (missingFor_of_keep goal), List.append_nil]
  · rfl

theorem sameItems_removal (distinct : ((p.itemsOf id).map ListItem.id).Nodup)
    (held : items ⊆ p.itemsOf id) :
    p.SameItems family (p.perform (removal target id (sightings.excess items))).2 := by
  intro list
  rw [itemsOf_deleteItems]
  split
  · next here =>
    rw [here, List.filter_filter]
    refine List.filter_congr fun item mem => ?_
    by_cases ofFamily : item.block.family = family
    · -- Removals go by identifiers; as these are distinct, they name no item that is to be kept.
      have stays : item.id ∉ (sightings.excess items).map ListItem.id := by
        intro named
        obtain ⟨other, gone, same⟩ := List.mem_map.mp named
        obtain ⟨mem', excess⟩ := List.mem_filter.mp gone
        rw [List.inj_on_of_nodup_map distinct (held mem') mem same] at excess
        exact Bool.false_ne_true ((isExcess_of_keep goal ofFamily).symm.trans excess)
      simp [ofFamily, stays]
    · simp [ofFamily]
  · rfl

end

end Simulation.Provider

namespace Reconcile

variable {K : RecordsKey → Prop} {Q : Call → Prop} {sightings : Sightings} {start p p' : Provider}
  {s s' s'' : Scene} {es es' : List Moment} {target : ListTarget} {id : String}
  {items : List ListItem}

/-- Items are told apart, and those of families to be kept are the ones there were at the start. -/
structure Retains (sightings : Sightings) (start p : Provider) : Prop where
  apart : p.ItemsApart
  same : ∀ family, sightings.goal family = .keep → start.SameItems family p

theorem Retains.ends {c : Call} {reply : Except Failure c.Reply} (h : Retains sightings start p)
    (same : ∀ family, sightings.goal family = .keep → p.SameItems family (p.perform c).2)
    (ends : p.Ends c reply p') : Retains sightings start p' :=
  ends.preserves h ⟨h.apart.perform c, fun family goal => (h.same family goal).trans (same family goal)⟩

end Reconcile

namespace Scene

variable {P : Provider → Prop} {s s' s'' : Scene} {es es' : List Moment}

theorem always_nil (start : P s.provider) : s.Always P [] s :=
  ⟨start, fun _ mem => absurd mem List.not_mem_nil, start⟩

theorem Always.imp {Q : Provider → Prop} (h : s.Always P es s') (imp : ∀ p, P p → Q p) :
    s.Always Q es s' :=
  ⟨imp _ h.first, fun m mem => (h.moments m mem).imp imp, imp _ h.last⟩

theorem Always.append (first : s.Always P es s') (rest : s'.Always P es' s'') :
    s.Always P (es ++ es') s'' :=
  ⟨first.first, List.forall_mem_append.mpr ⟨first.moments, rest.moments⟩, rest.last⟩

theorem Quiet.always (quiet : s.Quiet es s') (start : P s.provider) : s.Always P es s' := by
  refine ⟨start, fun m mem => (quiet.moments m mem).2.imp fun p same => ?_, ?_⟩
  · rwa [same]
  · rwa [quiet.provider]

theorem Change.always {c : Call} {patch : c.Reply → Nat → Caches → Caches} {forget : Caches → Caches}
    {reply : Except Failure c.Reply} (change : s.Change c patch forget es reply s')
    (start : P s.provider) (last : P s'.provider) : s.Always P es s' := by
  refine ⟨start, ?_, last⟩
  rw [change.moments]
  exact List.forall_mem_singleton.mpr ⟨start, last⟩

end Scene

def Moment.Asks (Q : Call → Prop) : Moment → Prop
  | .called c .. => Q c
  | .stopAsked _ => True
  | .detected .. | .told .. => False

theorem Sync.OnlyAsks.ensures {α : Type} {Q : Call → Prop} {P : Provider → Prop} {p : Sync α}
    {s : Scene} (only : OnlyAsks (Calls Q) p) (kept : ∀ p c, Q c → P p → P (p.perform c).2)
    (start : P s.provider) :
    Sync.Ensures p s fun es _ s' => s.Always P es s' ∧ ∀ m ∈ es, m.Asks Q := by
  intro es a s' run
  -- An implication relates the ends, since a part of the run need not begin where `P` holds.
  refine Program.Asks.relates
    (R := fun s es s' => P s.provider → s.Always P es s' ∧ ∀ m ∈ es, m.Asks Q) only run ?_ ?_ start
  · exact fun s start => ⟨Scene.always_nil start, fun m mem => absurd mem List.not_mem_nil⟩
  · intro s r x es s' es' s'' allowed answered rest start
    have none : ∀ m ∈ ([] : List Moment), m.Asks Q := fun m mem => absurd mem List.not_mem_nil
    have asks : ∀ m ∈ es, m.Asks Q := by
      cases r with
      | call c =>
        rw [answered.2.2.2]
        exact List.forall_mem_singleton.mpr allowed
      | detect | emit | limitWork => cases allowed
      | stopRequested =>
        rw [answered.2]
        exact List.forall_mem_singleton.mpr trivial
      | look =>
        rw [answered.2.2.2]
        exact none
      | revise change =>
        rw [answered.2.2]
        exact none
      | log =>
        rw [answered.2]
        exact none
    have always : s.Always P es s' := by
      rcases react_cases answered with ⟨c, reply, ends, rfl⟩ | ⟨same, moments⟩
      · have last := ends.preserves start (kept _ c (asks _ (List.mem_singleton_self _)) start)
        exact ⟨start, List.forall_mem_singleton.mpr ⟨start, last⟩, last⟩
      · refine ⟨start, fun m mem => moments m mem P start, ?_⟩
        rwa [same]
    obtain ⟨always', all⟩ := rest always.last
    exact ⟨always.append always', List.forall_mem_append.mpr ⟨asks, all⟩⟩

theorem Sync.OnlyAsks.ensures_asks {α : Type} {Q : Call → Prop} {p : Sync α}
    (only : OnlyAsks (Calls Q) p) (s : Scene) :
    Sync.Ensures p s fun es _ _ => ∀ m ∈ es, m.Asks Q :=
  (only.ensures (P := fun _ => True) (fun _ _ _ kept => kept) trivial).mono fun _ _ _ asks => asks.2

namespace Reconcile

open Scene

variable {K : RecordsKey → Prop} {sightings : Sightings} {start : Provider} {s s' : Scene}
  {es : List Moment} {target : ListTarget} {id : String} {items : List ListItem}

theorem itemsOf_publishes {c : Call} {domain : Domain} {family : Family} {address : Address}
    (p : Provider) (publishes : Publishes domain family address c) (list : String) :
    (p.perform c).2.itemsOf list = p.itemsOf list := by
  cases c with
  | listZones | listRecords | createRecord => rfl
  | updateRecord | deleteRecord =>
    rw [Provider.perform]
    split <;> rfl
  | _ => cases publishes

theorem ensures_publish_retains {domain : Domain} {family : Family} {address : Address}
    {attributes : Attributes} (retains : Retains sightings start s.provider) :
    Sync.Ensures (publish domain family address attributes) s fun es _ s' =>
      s.Always (Retains sightings start) es s' ∧ ∀ m ∈ es, m.Asks (Publishes domain family address) := by
  refine (onlyCalls_publish domain family address attributes).ensures (fun p c publishes kept => ?_)
    retains
  refine ⟨kept.apart.perform c, fun other goal => (kept.same other goal).trans ?_⟩
  exact Provider.sameItems_of_eq (itemsOf_publishes p publishes)

theorem always_obtained {reply : Except Failure (NamedList × Bool)} (h : s.provider.Numbered)
    (retains : Retains sightings start s.provider) (obtained : Obtained K target s es reply s') :
    s.Always (Retains sightings start) es s' := by
  have made {es : List Moment} {reply : Except Failure NamedList} {s₁ : Scene} {p : Provider}
      {t : Nat} {caches : Caches} (quiet : s.Quiet es s₁)
      (ends : s₁.provider.Ends (.createList target.account target.name target.description) reply p) :
      s.Always (Retains sightings start)
        (es ++ [.called (.createList target.account target.name target.description) reply
          s₁.provider p]) ⟨t, p, caches⟩ := by
    have before := quiet.always retains
    rw [← quiet.provider] at h
    have after := before.last.ends (fun _ _ => Provider.sameItems_createList h) ends
    refine before.append ⟨before.last, ?_, after⟩
    exact List.forall_mem_singleton.mpr ⟨before.last, after⟩
  cases obtained with
  | unread es e s' reads | found es l s' reads => exact reads.quiet.always retains
  | created es l s₁ p t t' reads ends | refused es e s₁ p t reads ends => exact made reads.quiet ends

theorem Added.always {done : Bool} (retains : Retains sightings start s.provider)
    (added : Added target id s (sightings.missing items) es done s') :
    s.Always (Retains sightings start) es s' := by
  have same : ∀ family, sightings.goal family = .keep → s.provider.SameItems family
      (s.provider.perform (addition target id (sightings.missing items))).2 :=
    fun _ goal => Provider.sameItems_addition goal
  generalize sightings.missing items = blocks at added same
  cases added with
  | none => exact always_nil retains
  | added _ _ _ _ _ adds | refused _ _ _ _ _ adds =>
    exact adds.always retains (retains.ends same adds.ends)

theorem Exchanged.always {changed : Bool} {result : Outcome × Bool}
    (retains : Retains sightings start s.provider) (held : s.provider.itemsOf id = items)
    (exchanged : Exchanged target id (sightings.missing items) (sightings.excess items) changed s es
      result s') : s.Always (Retains sightings start) es s' := by
  have asked (s : Scene) (answer : Bool) (retains : Retains sightings start s.provider) :
      s.Always (Retains sightings start) [.stopAsked answer] s :=
    (quiet_stopAsked answer).always retains
  have removed {es es' : List Moment} {s₁ s' : Scene} {reply : Except Failure Unit}
      (added : Added target id s (sightings.missing items) es true s₁)
      (removes : RemovesItems target id (sightings.excess items) s₁ es' reply s') :
      s.Always (Retains sightings start) (es ++ .stopAsked false :: es') s' := by
    have before := added.always retains
    have kept : items ⊆ s₁.provider.itemsOf id := by
      rw [added.applied.1, held]
      exact List.subset_append_left items _
    have after := before.last.ends (fun _ goal =>
      Provider.sameItems_removal goal (before.last.apart.distinct id) kept) removes.ends
    exact before.append ((asked s₁ false before.last).append (removes.always before.last after))
  cases exchanged with
  | refused es s' added | added es s' added => exact added.always retains
  | stopped es s' added =>
    have before := added.always retains
    exact before.append (asked s' true before.last)
  | removed es es' s₁ s' added some removes => exact removed added removes
  | unremoved es es' e s₁ s' added some removes => exact removed added removes

theorem Populated.always {report : Report} (h : s.provider.Numbered)
    (retains : Retains sightings start s.provider)
    (populated : Populated K target sightings s es report s') :
    s.Always (Retains sightings start) es s' := by
  have asked (answer : Bool) : s.Always (Retains sightings start) [.stopAsked answer] s :=
    (quiet_stopAsked answer).always retains
  cases populated with
  | stopped => exact asked true
  | unobtained es e s' obtained =>
    exact (asked false).append (always_obtained h retains obtained)
  | unlisted es es' l created e s₁ s' obtained reads
  | current es es' l created s₁ s' obtained reads =>
    have before := always_obtained h retains obtained
    exact (asked false).append (before.append (reads.quiet.always before.last))
  | exchanged es es' es'' l created s₁ s₂ s' outcome stopped obtained reads some exchanged =>
    have before := always_obtained h retains obtained
    have read := reads.quiet.always before.last
    have held : s₂.provider.itemsOf l.id = s₁.provider.itemsOf l.id := by rw [reads.quiet.provider]
    exact (asked false).append (before.append (read.append (exchanged.always read.last held)))

end Reconcile

end AddressSync
