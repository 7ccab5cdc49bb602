import AddressSync.Proofs.Directory.ListChanges
import AddressSync.Reconcile.Lists

/-! What populating a list can do: how the list is obtained and read, and the batch of additions and
the one of removals that may follow, each of them one call. -/

namespace AddressSync.Reconcile

open Sync Simulation Directory Scene

variable {K : RecordsKey → Prop} {target : ListTarget} {id : String} {blocks missing : List Block}
  {excess : List ListItem} {changed : Bool} {s s' : Scene} {es : List Moment} {sightings : Sightings}

abbrev addition (target : ListTarget) (id : String) (blocks : List Block) : Call :=
  .createItems target.account id blocks target.itemComment

abbrev removal (target : ListTarget) (id : String) (items : List ListItem) : Call :=
  .deleteItems target.account id (items.map ListItem.id)

abbrev AddsItems (target : ListTarget) (id : String) (blocks : List Block) (s : Scene)
    (es : List Moment) (reply : Except Failure (List ListItem)) (s' : Scene) : Prop :=
  s.Change (addition target id blocks) (fun created => patchItems id (· ++ created)) (dropItems id)
    es reply s'

abbrev RemovesItems (target : ListTarget) (id : String) (items : List ListItem) (s : Scene)
    (es : List Moment) (reply : Except Failure Unit) (s' : Scene) : Prop :=
  s.Change (removal target id items)
    (fun _ => patchItems id (·.filter fun item => !(items.map ListItem.id).contains item.id))
    (dropItems id) es reply s'

inductive Added (target : ListTarget) (id : String) (s : Scene) :
    List Block → List Moment → Bool → Scene → Prop
  | none : Added target id s [] [] true s
  | added (blocks : List Block) (created : List ListItem) (es : List Moment) (s' : Scene)
    (some : blocks ≠ []) (adds : AddsItems target id blocks s es (.ok created) s') :
    Added target id s blocks es true s'
  | refused (blocks : List Block) (e : Failure) (es : List Moment) (s' : Scene)
    (some : blocks ≠ []) (adds : AddsItems target id blocks s es (.error e) s') :
    Added target id s blocks es false s'

inductive Exchanged (target : ListTarget) (id : String) (missing : List Block)
    (excess : List ListItem) (changed : Bool) (s : Scene) :
    List Moment → Outcome × Bool → Scene → Prop
  | refused (es : List Moment) (s' : Scene) (added : Added target id s missing es false s') :
    Exchanged target id missing excess changed s es (.failed, false) s'
  | added (es : List Moment) (s' : Scene) (added : Added target id s missing es true s')
    (none : excess = []) : Exchanged target id missing excess changed s es (.updated, false) s'
  | stopped (es : List Moment) (s' : Scene) (added : Added target id s missing es true s')
    (some : excess ≠ []) :
    Exchanged target id missing excess changed s (es ++ [.stopAsked true])
      (if changed || !missing.isEmpty then .updated else .failed, true) s'
  | removed (es es' : List Moment) (s₁ s' : Scene) (added : Added target id s missing es true s₁)
    (some : excess ≠ []) (removes : RemovesItems target id excess s₁ es' (.ok ()) s') :
    Exchanged target id missing excess changed s (es ++ .stopAsked false :: es')
      (.updated, false) s'
  | unremoved (es es' : List Moment) (e : Failure) (s₁ s' : Scene)
    (added : Added target id s missing es true s₁) (some : excess ≠ [])
    (removes : RemovesItems target id excess s₁ es' (.error e) s') :
    Exchanged target id missing excess changed s (es ++ .stopAsked false :: es')
      (.failed, false) s'

theorem ensures_addBatch (some : blocks ≠ []) (s : Scene) :
    Sync.Ensures (addBatch target id blocks) s (Added target id s blocks) := by
  refine (ensures_change s).bind fun es reply s' adds => ?_
  cases reply with
  | ok created =>
    refine (silent_forM (fun _ => silent_log _ _ _) blocks).ensures_bind ?_
    refine Program.ensures_pure_iff.mpr ?_
    rw [List.append_nil]
    exact .added blocks created es s' some adds
  | error e =>
    refine ensures_log_iff.mpr (Program.ensures_pure_iff.mpr ?_)
    rw [List.append_nil]
    exact .refused blocks e es s' some adds

theorem ensures_removeBatch (target : ListTarget) (id : String) (items : List ListItem) (s : Scene) :
    Sync.Ensures (removeBatch target id items) s fun es done s' =>
      ∃ reply, RemovesItems target id items s es reply s' ∧ done = reply.isOk := by
  refine (ensures_change s).bind fun es reply s' removes => ?_
  cases reply with
  | ok x =>
    refine (silent_forM (fun _ => silent_log _ _ _) items).ensures_bind ?_
    refine Program.ensures_pure_iff.mpr ?_
    rw [List.append_nil]
    exact ⟨.ok x, removes, rfl⟩
  | error e =>
    refine ensures_log_iff.mpr (Program.ensures_pure_iff.mpr ?_)
    rw [List.append_nil]
    exact ⟨.error e, removes, rfl⟩

theorem ensures_exchange (target : ListTarget) (id : String) (missing : List Block)
    (excess : List ListItem) (changed : Bool) (s : Scene) :
    Sync.Ensures (exchange target id missing excess changed) s
      (Exchanged target id missing excess changed s) := by
  have rest (es : List Moment) (s₁ : Scene) (added : Added target id s missing es true s₁) :
      Sync.Ensures (do
        if excess.isEmpty then return (.updated, false)
        if ← stopRequested then
          log .warn "cancelled before removing outdated IP list items" [("list", .text target.print)]
          return (if changed || !missing.isEmpty then .updated else .failed, true)
        if ← removeBatch target id excess then return (.updated, false)
        return (.failed, false)) s₁ fun es' =>
          Exchanged target id missing excess changed s (es ++ es') := by
    split
    · next none =>
      refine Program.ensures_pure_iff.mpr ?_
      rw [List.append_nil]
      exact .added es s₁ added (List.isEmpty_iff.mp none)
    · next some =>
      have some : excess ≠ [] := fun none => some (List.isEmpty_iff.mpr none)
      refine ensures_stopRequested_iff.mpr fun stop => ?_
      cases stop with
      | true =>
        exact ensures_log_iff.mpr (Program.ensures_pure_iff.mpr (.stopped es s₁ added some))
      | false =>
        refine (ensures_removeBatch target id excess s₁).bind fun es' done s' ⟨reply, removes, same⟩ => ?_
        subst same
        cases reply with
        | ok x =>
          refine Program.ensures_pure_iff.mpr ?_
          rw [List.append_nil]
          exact .removed es es' s₁ s' added some removes
        | error e =>
          refine Program.ensures_pure_iff.mpr ?_
          rw [List.append_nil]
          exact .unremoved es es' e s₁ s' added some removes
  unfold exchange
  cases missing with
  | nil => exact rest [] s .none
  | cons block blocks =>
    refine (ensures_addBatch (List.cons_ne_nil block blocks) s).bind fun es done s₁ added => ?_
    cases done with
    | true => exact rest es s₁ added
    | false =>
      refine Program.ensures_pure_iff.mpr ?_
      rw [List.append_nil]
      exact .refused es s₁ added

/-- The ways in which populating a list ends. -/
inductive Populated (K : RecordsKey → Prop) (target : ListTarget) (sightings : Sightings)
    (s : Scene) : List Moment → Report → Scene → Prop
  | stopped : Populated K target sightings s [.stopAsked true] ⟨.list target.print, .failed, true⟩ s
  | unobtained (es : List Moment) (e : Failure) (s' : Scene)
    (obtained : Obtained K target s es (.error e) s') :
    Populated K target sightings s (.stopAsked false :: es) ⟨.list target.print, .failed, false⟩ s'
  | unlisted (es es' : List Moment) (l : NamedList) (created : Bool) (e : Failure) (s₁ s' : Scene)
    (obtained : Obtained K target s es (.ok (l, created)) s₁)
    (reads : s₁.Reads K (· = s₁.provider.itemsOf l.id) es' (.error e) s') :
    Populated K target sightings s (.stopAsked false :: (es ++ es'))
      ⟨.list target.print, .failed, false⟩ s'
  | current (es es' : List Moment) (l : NamedList) (created : Bool) (s₁ s' : Scene)
    (obtained : Obtained K target s es (.ok (l, created)) s₁)
    (reads : s₁.Reads K (· = s₁.provider.itemsOf l.id) es' (.ok (s₁.provider.itemsOf l.id)) s')
    (missing : sightings.missing (s₁.provider.itemsOf l.id) = [])
    (excess : sightings.excess (s₁.provider.itemsOf l.id) = []) :
    Populated K target sightings s (.stopAsked false :: (es ++ es'))
      ⟨.list target.print, if created then .updated else .unchanged, false⟩ s'
  | exchanged (es es' es'' : List Moment) (l : NamedList) (created : Bool) (s₁ s₂ s' : Scene)
    (outcome : Outcome) (stopped : Bool)
    (obtained : Obtained K target s es (.ok (l, created)) s₁)
    (reads : s₁.Reads K (· = s₁.provider.itemsOf l.id) es' (.ok (s₁.provider.itemsOf l.id)) s₂)
    (some : ¬ (sightings.missing (s₁.provider.itemsOf l.id) = [] ∧
      sightings.excess (s₁.provider.itemsOf l.id) = []))
    (exchanged : Exchanged target l.id (sightings.missing (s₁.provider.itemsOf l.id))
      (sightings.excess (s₁.provider.itemsOf l.id)) created s₂ es'' (outcome, stopped) s') :
    Populated K target sightings s (.stopAsked false :: (es ++ (es' ++ es'')))
      ⟨.list target.print, outcome, stopped⟩ s'

theorem silent_remarkKept (list : String) (sightings : Sightings) (family : Family) :
    Silent (remarkKept list sightings family) := by
  unfold remarkKept
  split
  · exact silent_log _ _ _
  all_goals exact silent_pure

theorem ensures_populate (h : s.CoherentOn K) (target : ListTarget) (sightings : Sightings) :
    Sync.Ensures (populate target sightings) s (Populated K target sightings s) := by
  refine ensures_stopRequested_iff.mpr fun stop => ?_
  cases stop with
  | true => exact Program.ensures_pure_iff.mpr .stopped
  | false =>
    refine (ensures_obtained h target).bind fun es reply s₁ obtained => ?_
    cases reply with
    | error e =>
      refine ensures_log_iff.mpr (Program.ensures_pure_iff.mpr ?_)
      rw [List.append_nil]
      exact .unobtained es e s₁ obtained
    | ok found =>
      obtain ⟨l, created⟩ := found
      refine (silent_log _ _ _).ensures_guard ?_
      refine (ensures_items obtained.coherent target l.id).bind fun es' reply s₂ reads => ?_
      cases reply with
      | error e =>
        refine ensures_log_iff.mpr (Program.ensures_pure_iff.mpr ?_)
        rw [List.append_nil]
        exact .unlisted es es' l created e s₁ s₂ obtained reads
      | ok items =>
        obtain rfl := reads.true_of_ok items rfl
        refine (silent_forM (silent_remarkKept _ _) _).ensures_bind ?_
        dsimp only
        split
        · next none =>
          obtain ⟨missing, excess⟩ := Bool.and_eq_true_iff.mp none
          refine ensures_log_iff.mpr (Program.ensures_pure_iff.mpr ?_)
          rw [List.append_nil]
          exact .current es es' l created s₁ s₂ obtained reads (List.isEmpty_iff.mp missing)
            (List.isEmpty_iff.mp excess)
        · next some =>
          refine (ensures_exchange _ _ _ _ _ s₂).bind fun es'' result s' exchanged => ?_
          refine Program.ensures_pure_iff.mpr ?_
          rw [List.append_nil]
          refine .exchanged es es' es'' l created s₁ s₂ s' _ _ obtained reads ?_ exchanged
          rintro ⟨missing, excess⟩
          rw [missing, excess] at some
          exact some rfl

end AddressSync.Reconcile
