import AddressSync.Proofs.Reconcile.Restraint

/-! All work keeps what may be counted on: the numbers to come are unused, no two lists have one
identifier or, in one account, one name, and what is cached is what the provider would answer. -/

namespace AddressSync

open Sync Simulation Directory Reconcile

namespace Simulation.Provider

variable {p p' : Provider} {c : Call} {account name description : String}

structure ListsApart (p : Provider) : Prop where
  names : ∀ account, ListIndex.NamesDistinct (p.listsOf account)
  ids : (p.lists.map (·.list.id)).Nodup

theorem ListsApart.of_lists (h : p.ListsApart) (same : p'.lists = p.lists) : p'.ListsApart := by
  refine ⟨fun account => ?_, ?_⟩
  · rw [listsOf, same]
    exact h.names account
  · rw [same]
    exact h.ids

theorem ListsApart.listWithin {l : NamedList} (h : p.ListsApart) (mem : l ∈ p.listsOf account) :
    p.ListWithin l.id account := by
  intro l' mem' same
  rw [List.inj_on_of_nodup_map h.ids mem' (mem_listsOf.mp mem) same]

theorem ListsApart.createList (h : p.ListsApart) (numbered : p.Numbered)
    (new : (ListIndex.ofLists (p.listsOf account)).find? name = none) :
    (p.perform (.createList account name description)).2.ListsApart where
  names := by
    refine namesDistinct_perform h.names ?_
    rintro _ _ _ same
    cases same
    exact new
  ids := by
    rw [perform, (changeItems_frame ..).2.2.1, List.map_append]
    refine List.nodup_append.mpr ⟨h.ids, List.nodup_singleton _, ?_⟩
    rintro id mem id' only rfl
    obtain ⟨l, held, same⟩ := List.mem_map.mp mem
    refine (numbered.unused _ (Nat.lt_succ_self _)).lists l held ?_
    exact same.trans (List.mem_singleton.mp only)

theorem ListsApart.perform (h : p.ListsApart)
    (kept : ∀ account name description, c ≠ .createList account name description) :
    (p.perform c).2.ListsApart := by
  cases c with
  | createList account name description => exact absurd rfl (kept account name description)
  | deleteList account id =>
    refine ⟨namesDistinct_perform h.names fun _ _ _ same => absurd same (kept _ _ _), ?_⟩
    exact h.ids.sublist (List.Sublist.map _ List.filter_sublist)
  | createItems | replaceItems => exact h.of_lists (changeItems_frame ..).2.2.1
  | updateRecord | deleteRecord =>
    refine h.of_lists ?_
    rw [Provider.perform]
    split <;> rfl
  | deleteItems =>
    refine h.of_lists ?_
    rw [Provider.perform]
    split
    · exact (changeItems_frame ..).2.2.1
    · rfl
  | _ => exact h.of_lists rfl

end Simulation.Provider

namespace Scene

structure Tidy (s : Scene) : Prop extends s.Orderly where
  apart : s.provider.ListsApart

theorem Tidy.faithful {s : Scene} (h : s.Tidy) : s.Faithful :=
  ⟨⟨h.numbered, h.apart.names⟩, h.coherent⟩

end Scene

namespace Reconcile

open Scene

variable {K : RecordsKey → Prop} {Q : Call → Prop} {s s' : Scene} {es : List Moment}
  {target : ListTarget} {id : String} {blocks : List Block} {items : List ListItem}
  {sightings : Sightings} {domain : Domain} {family : Family}

theorem ensures_tidy_of_orderly {p : Sync Report} (h : s.Tidy) (only : OnlyAsks (Calls Q) p)
    (unmade : ∀ account name description, ¬ Q (.createList account name description))
    (orderly : Sync.Ensures p s fun _ _ s' => s'.Orderly) :
    Sync.Ensures p s fun _ _ s' => s'.Tidy := by
  intro es report s' run
  have apart := only.ensures (P := Provider.ListsApart) (fun p c allowed apart => ?_) h.apart
  · exact ⟨orderly es report s' run, (apart es report s' run).1.last⟩
  · refine apart.perform ?_
    rintro account name description rfl
    exact unmade account name description allowed

theorem ensures_publish_tidy (h : s.Tidy) (parsed : domain.IsParsed) (family : Family)
    (address : Address) (attributes : Attributes) :
    Sync.Ensures (publish domain family address attributes) s fun _ _ s' => s'.Tidy := by
  refine ensures_tidy_of_orderly h (onlyCalls_publish domain family address attributes)
    (fun _ _ _ => id) ?_
  exact (ensures_publish_orderly h.toOrderly parsed family address attributes).mono
    fun _ _ _ done => done.1

theorem ensures_withdraw_tidy (h : s.Tidy) (parsed : domain.IsParsed) (family : Family)
    (last : Bool) : Sync.Ensures (withdraw domain family last) s fun _ _ s' => s'.Tidy :=
  ensures_tidy_of_orderly h (onlyCalls_withdraw domain family last) (fun _ _ _ => id)
    (ensures_withdraw_orderly h.toOrderly parsed family last)

theorem Obtained.listsApart {reply : Except Failure (NamedList × Bool)} (h : s.Tidy)
    (obtained : Obtained K target s es reply s') : s'.provider.ListsApart := by
  cases obtained with
  | unread es e s' reads | found es l s' reads =>
    rw [reads.quiet.provider]
    exact h.apart
  | created es l s₁ p t t' reads ends | refused es e s₁ p t reads ends =>
    have new := (reads.true_of_ok none rfl).symm
    rw [← reads.quiet.provider] at new
    have apart := h.apart
    have numbered := h.numbered
    rw [← reads.quiet.provider] at apart numbered
    exact ends.preserves apart (apart.createList numbered new)

theorem Added.lists {done : Bool} (added : Added target id s blocks es done s') :
    s'.provider.lists = s.provider.lists := by
  cases added with
  | none => rfl
  | added _ _ _ _ _ adds | refused _ _ _ _ _ adds =>
    exact (Provider.changesItems_create.frame adds.ends).1

theorem Exchanged.lists {changed : Bool} {result : Outcome × Bool}
    (exchanged : Exchanged target id blocks items changed s es result s') :
    s'.provider.lists = s.provider.lists := by
  cases exchanged with
  | refused es s' added | added es s' added | stopped es s' added => exact added.lists
  | removed es es' s₁ s' added _ removes | unremoved es es' e s₁ s' added _ removes =>
    exact (Provider.changesItems_delete.frame removes.ends).1.trans added.lists

theorem ensures_populate_tidy (h : s.Tidy) (target : ListTarget) (sightings : Sightings) :
    Sync.Ensures (populate target sightings) s fun _ _ s' => s'.Tidy := by
  refine (ensures_populate h.coherent target sightings).mono fun es report s' populated => ?_
  refine ⟨populated.orderly h.toOrderly, ?_⟩
  cases populated with
  | stopped => exact h.apart
  | unobtained es e s' obtained => exact Obtained.listsApart h obtained
  | unlisted es es' l created e s₁ s' obtained reads
  | current es es' l created s₁ s' obtained reads =>
    rw [reads.quiet.provider]
    exact Obtained.listsApart h obtained
  | exchanged es es' es'' l created s₁ s₂ s' outcome stopped obtained reads some exchanged =>
    refine (Obtained.listsApart h obtained).of_lists (exchanged.lists.trans ?_)
    rw [reads.quiet.provider]

def Retires : Call → Prop
  | .listLists _ | .deleteList .. | .replaceItems .. => True
  | _ => False

def retireFrom (target : ListTarget) : Except Failure (Option NamedList) → Sync Report
  | .error e => do
    log .error s!"failed to look up IP list: {e}" [("list", .text target.print)]
    return ⟨.list target.print, .failed, false⟩
  | .ok none => do
    log .debug "IP list does not exist; nothing to clear" [("list", .text target.print)]
    return ⟨.list target.print, .unchanged, false⟩
  | .ok (some list) => do
    let here := [("list", .text target.print), ("list_id", .text list.id)]
    match ← Directory.deleteList target list.id with
    | .ok _ =>
      log .info "deleted IP list" here
      return ⟨.list target.print, .updated, false⟩
    | .error e =>
      log .warn s!"failed to delete IP list ({e}); emptying it instead"
        [("list", .text target.print)]
      match ← Directory.replaceItems target list.id [] with
      | .ok _ =>
        log .info "started emptying IP list" here
        return ⟨.list target.print, .updating, false⟩
      | .error e =>
        log .error s!"failed to start emptying IP list: {e}" [("list", .text target.print)]
        return ⟨.list target.print, .failed, false⟩

theorem retire_eq (target : ListTarget) : retire target = (do
    if ← stopRequested then return ⟨.list target.print, .failed, true⟩
    Directory.forgetIndex target.account
    Directory.findList target >>= retireFrom target) := by
  unfold retire
  refine congrArg (stopRequested >>= ·) (funext fun stop => ?_)
  cases stop with
  | true => rfl
  | false =>
    refine congrArg (Directory.forgetIndex target.account >>= ·) (funext fun _ => ?_)
    refine congrArg (Directory.findList target >>= ·) (funext fun reply => ?_)
    rcases reply with e | _ | list <;> rfl

theorem onlyAsks_retireFrom {P : Request → Prop} (usual : Usual P)
    (deleted : ∀ id, P (.call (.deleteList target.account id)))
    (replaced : ∀ id, P (.call (.replaceItems target.account id [])))
    (reply : Except Failure (Option NamedList)) : OnlyAsks P (retireFrom target reply) := by
  rcases reply with e | _ | list
  · exact onlyAsks_log_pure usual _
  · exact onlyAsks_log_pure usual _
  · refine (onlyAsks_deleteList usual (deleted list.id)).bind fun reply => ?_
    cases reply with
    | ok x => exact onlyAsks_log_pure usual _
    | error e =>
      refine (onlyAsks_log usual _ _ _).bind fun _ => ?_
      refine (onlyAsks_replaceItems usual (replaced list.id)).bind fun reply => ?_
      cases reply with
      | ok x | error e => exact onlyAsks_log_pure usual _

theorem onlyAsks_retire {P : Request → Prop} (usual : Usual P) (looked : P .look)
    (called : ∀ c, Retires c → P (.call c)) (target : ListTarget) : OnlyAsks P (retire target) := by
  rw [retire_eq]
  refine onlyAsks_unless_stopped usual (onlyAsks_pure _) ?_
  refine (onlyAsks_revise usual Directory.stamping_dropIndex).bind fun _ => ?_
  refine (onlyAsks_findList usual looked (called _ trivial)).bind fun reply => ?_
  exact onlyAsks_retireFrom usual (fun _ => called _ trivial) (fun _ => called _ trivial) reply

theorem onlyCalls_retire (target : ListTarget) : OnlyAsks (Calls Retires) (retire target) :=
  onlyAsks_retire (usual_calls Retires) trivial (fun _ allowed => allowed) target

theorem ensures_emptyItems (h : s.Faithful) (target : ListTarget) (id : String) :
    Sync.Ensures (Directory.replaceItems target id []) s fun _ _ s' => s'.Faithful := by
  -- The list may be gone by now, so this is no call on a list that is there; but it adds nothing.
  have sound : (s.provider.perform (.replaceItems target.account id [])).2.Sound := by
    refine ⟨h.sound.toNumbered.changeItems (Nat.le_refl _) (.inl rfl), ?_⟩
    exact Provider.namesDistinct_perform h.sound.names_distinct nofun
  refine ensures_call_iff.mpr fun t reply p later ends => ?_
  refine ensures_revise_iff.mpr fun t' later' => Program.ensures_pure_iff.mpr ?_
  have after := Nat.le_trans later later'
  exact ⟨ends.preserves h.sound sound,
    h.coherent.forget_items after Provider.changesItems_replace ends rfl⟩

theorem ensures_forgetIndex (h : s.Faithful) (account : String) :
    Sync.Ensures (Directory.forgetIndex account) s fun es _ s' => s.Quiet es s' ∧ s'.Faithful := by
  rw [← bind_pure (Directory.forgetIndex account)]
  refine ensures_revise_iff.mpr fun t later => Program.ensures_pure_iff.mpr ⟨quiet_pass later, ?_⟩
  have passed := h.coherent.pass later
  exact ⟨h.sound, { passed with indexes := passed.indexes.erase fun _ _ _ said => said }⟩

theorem ensures_retireFrom (h : s.Faithful) (reply : Except Failure (Option NamedList))
    (within : ∀ l, reply = .ok (some l) → s.provider.ListWithin l.id target.account) :
    Sync.Ensures (retireFrom target reply) s fun _ _ s' => s'.Faithful := by
  rcases reply with e | _ | list
  · exact ensures_log_iff.mpr (Program.ensures_pure_iff.mpr h)
  · exact ensures_log_iff.mpr (Program.ensures_pure_iff.mpr h)
  · refine (ensures_deleteList h (within list rfl)).bind fun es reply s' deleted => ?_
    cases reply with
    | ok x => exact ensures_log_iff.mpr (Program.ensures_pure_iff.mpr deleted)
    | error e =>
      refine ensures_log_iff.mpr ?_
      refine (ensures_emptyItems deleted target list.id).bind fun es' reply s'' emptied => ?_
      cases reply with
      | ok x | error e => exact ensures_log_iff.mpr (Program.ensures_pure_iff.mpr emptied)

theorem ensures_retire_tidy (h : s.Tidy) (target : ListTarget) :
    Sync.Ensures (retire target) s fun _ _ s' => s'.Tidy := by
  refine ensures_tidy_of_orderly h (onlyCalls_retire target) (fun _ _ _ => id) ?_
  rw [retire_eq]
  refine ensures_stopRequested_iff.mpr fun stop => ?_
  cases stop with
  | true => exact Program.ensures_pure_iff.mpr h.toOrderly
  | false =>
    refine (ensures_forgetIndex h.faithful target.account).bind fun es _ s₁ ⟨quiet, faithful⟩ => ?_
    refine (ensures_findList faithful.coherent target).bind fun es' reply s₂ reads => ?_
    refine (ensures_retireFrom (faithful.reads reads) reply fun l found => ?_).mono
      fun _ _ _ done => done.orderly
    have named := (reads.true_of_ok _ found).symm
    rw [reads.quiet.provider]
    rw [quiet.provider] at named ⊢
    exact h.apart.listWithin (Provider.names_of_find? named).mem

end Reconcile

end AddressSync
