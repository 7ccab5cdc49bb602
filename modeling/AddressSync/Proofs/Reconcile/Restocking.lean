import AddressSync.Proofs.Reconcile.Completion
import AddressSync.Proofs.Reconcile.Restraint
import AddressSync.Proofs.Reconcile.Upkeep

/-! Work on a list where only what is cached of the lists of the account has to be right. What was
cached of the items, and however wrong, nothing is once a call about them failed; and where it is
right too, only a failed call or a request to stop can keep the list from getting the items that
follow. -/

namespace AddressSync

open Sync Simulation Directory Scene

def Moment.isAboutItems : Moment → Bool
  | .called (.listItems ..) .. | .called (.createItems ..) .. | .called (.deleteItems ..) ..
  | .called (.replaceItems ..) .. => true
  | _ => false

namespace Scene

variable {s s' s'' : Scene} {es : List Moment} {c : Call} {account id : String}

def ItemsUnread (id : String) (s : Scene) : Prop :=
  ∀ t, s.now ≤ t → s.caches.items.get? t id = none

theorem ItemsUnread.itemsTrue (unread : s.ItemsUnread id) : s.ItemsTrue id := by
  intro t items later found
  rw [unread t later] at found
  cases found

structure SameLists (s s' : Scene) : Prop where
  later : s.now ≤ s'.now
  lists : s'.provider.lists = s.provider.lists
  indexes : s'.caches.indexes = s.caches.indexes

theorem SameLists.trans (first : s.SameLists s') (rest : s'.SameLists s'') : s.SameLists s'' :=
  ⟨Nat.le_trans first.later rest.later, rest.lists.trans first.lists,
    rest.indexes.trans first.indexes⟩

theorem SameLists.indexTrue (same : s.SameLists s') (h : s.IndexTrue account) :
    s'.IndexTrue account :=
  h.frame same.later same.lists same.indexes

theorem SameLists.named? (same : s.SameLists s') (target : ListTarget) :
    s'.provider.named? target = s.provider.named? target := by
  rw [Provider.named?, Provider.listsOf, same.lists]
  rfl

theorem Change.sameLists {work change : c.Reply → List ListItem → List ListItem}
    {reply : Except Failure c.Reply} (changes : s.provider.ChangesItems c id work)
    (changed : s.Change c (fun x => patchItems id (change x)) (dropItems id) es reply s') :
    s.SameLists s' := by
  refine ⟨changed.later, (changes.frame changed.ends).1, ?_⟩
  rw [changed.caches]
  cases reply <;> rfl

theorem Change.itemsUnread {patch : c.Reply → Nat → Caches → Caches} {e : Failure}
    (changed : s.Change c patch (dropItems id) es (.error e) s') : s'.ItemsUnread id := by
  intro t later
  rw [changed.caches]
  exact Cache.get?_erase

structure ReadsItems (id : String) (s : Scene) (es : List Moment)
    (reply : Except Failure (List ListItem)) (s' : Scene) : Prop where
  quiet : s.Quiet es s'
  indexes : s'.caches.indexes = s.caches.indexes
  true_of_ok : s.ItemsTrue id → ∀ items, reply = .ok items → items = s.provider.itemsOf id
  failed : ∀ e, reply = .error e → s'.ItemsUnread id ∧ ∃ m ∈ es, m.Fails

theorem ReadsItems.sameLists {reply : Except Failure (List ListItem)}
    (reads : s.ReadsItems id es reply s') : s.SameLists s' :=
  ⟨reads.quiet.later, congrArg Provider.lists reads.quiet.provider, reads.indexes⟩

end Scene

namespace Directory

variable {s s' : Scene} {es : List Moment} {target : ListTarget}

theorem ensures_readsItems (target : ListTarget) (id : String) (s : Scene) :
    Sync.Ensures (items target id) s (ReadsItems id s) := by
  have fetches (live : List ListItem → Prop)
      (said : ∀ t items, s.now ≤ t → s.caches.items.get? t id = some items → live items)
      (fresh : live (s.provider.itemsOf id)) : Sync.Ensures (items target id) s (s.Fetches live
        fun items now c => { c with items := c.items.set now id items }) :=
    ensures_fetch rfl (silent_log _ _ _) said fun reply same => Except.ok.inj same ▸ fresh
  have missed : Sync.Ensures (items target id) s _ := ensures_fetch_missed (silent_log _ _ _) s
  intro es reply s' run
  have read := fetches (fun _ => True) (fun _ _ _ _ => trivial) trivial es reply s' run
  refine ⟨read.quiet, ?_, fun said => ?_, fun e same => ⟨fun t later => ?_, read.failed e same⟩⟩
  · rcases read.caches with same | ⟨_, _, same⟩ <;> rw [same]
  · exact (fetches (· = s.provider.itemsOf id) said rfl es reply s' run).true_of_ok
  · obtain ⟨kept, t', before, none⟩ := missed es reply s' run e same
    rw [kept]
    exact Cache.get?_eq_none_of_later none (Nat.le_trans before later)

structure Acquires (target : ListTarget) (s : Scene) (es : List Moment)
    (reply : Except Failure (NamedList × Bool)) (s' : Scene) : Prop where
  later : s.now ≤ s'.now
  index : s'.IndexTrue target.account
  apart : s.provider.ItemsApart → s'.provider.ItemsApart
  named : ∀ l created, reply = .ok (l, created) → s'.provider.named? target = some l ∧
    s'.provider.itemsOf l.id = s.provider.contents target
  items : ∀ l created, reply = .ok (l, created) →
    (∀ l, s.provider.named? target = some l → s.ItemsTrue l.id) → s'.ItemsTrue l.id
  failed : ∀ e, reply = .error e → (∃ m ∈ es, m.Fails) ∧ s'.caches.items = s.caches.items ∧
    (s.provider.Numbered → ∀ id, s'.provider.itemsOf id = s.provider.itemsOf id)

theorem FindsList.created {s₁ : Scene} {t t' : Nat} {l : NamedList}
    (finds : FindsList target s es (.ok none) s₁)
    (made : (s₁.provider.perform (.createList target.account target.name target.description)).1 =
      .ok l) (later : s₁.now ≤ t) (later' : t ≤ t') (es' : List Moment) :
    Acquires target s es' (.ok (l, true))
      ⟨t', (s₁.provider.perform (.createList target.account target.name target.description)).2,
        { s₁.caches with
          indexes := s₁.caches.indexes.modify t target.account (·.insert l)
          items := s₁.caches.items.set t' l.id [] }⟩ := by
  have here := Provider.changesIndex_create.here l made
  cases made
  refine ⟨Nat.le_trans finds.quiet.later (Nat.le_trans later later'), ?_, fun apart => ?_, ?_, ?_,
    nofun⟩
  · intro t'' index later'' found
    dsimp only at found
    rw [Cache.get?_modify (Nat.le_trans later' later'')] at found
    obtain ⟨old, cached, rfl⟩ := Option.map_eq_some_iff.mp found
    rw [here, finds.index t'' old (Nat.le_trans later (Nat.le_trans later' later'')) cached]
  · rw [← finds.quiet.provider] at apart
    exact apart.perform _
  · rintro l created same
    cases same
    refine ⟨Provider.named?_createList, ?_⟩
    rw [Provider.contents, ← finds.true_of_ok none rfl]
    exact Provider.itemsOf_createList.trans (if_pos rfl)
  · rintro l created same _ t'' items later'' found
    cases same
    rw [Cache.get?_set] at found
    split at found
    · cases found
      exact (Provider.itemsOf_createList.trans (if_pos rfl)).symm
    · cases found

theorem ensures_acquires (h : s.IndexTrue target.account) :
    Sync.Ensures (obtainList target) s (Acquires target s) := by
  refine (ensures_findsList h).bind fun es reply s₁ finds => ?_
  have provider := finds.quiet.provider
  rcases reply with e | _ | l
  · refine Program.ensures_pure_iff.mpr ⟨finds.quiet.later, finds.index, fun apart => by rwa [provider],
      nofun, nofun, fun _ _ => ⟨?_, finds.items, fun _ _ => by rw [provider]⟩⟩
    rw [List.append_nil]
    exact finds.failed e rfl
  · refine ensures_call_iff.mpr fun t reply p later ends => ?_
    cases reply with
    | ok l =>
      refine ensures_revise_iff.mpr fun t₁ later₁ => ensures_revise_iff.mpr fun t₂ later₂ => ?_
      obtain ⟨made, rfl⟩ := ends.of_ok
      exact Program.ensures_pure_iff.mpr (finds.created made (Nat.le_trans later later₁) later₂ _)
    | error e =>
      refine ensures_revise_iff.mpr fun t₁ later₁ => Program.ensures_pure_iff.mpr ?_
      have after := Nat.le_trans finds.quiet.later (Nat.le_trans later later₁)
      refine ⟨after, fun _ _ _ found => ?_, fun apart => ?_, nofun, nofun, fun _ _ =>
        ⟨⟨_, List.mem_append_right es (List.mem_singleton_self _), rfl⟩, finds.items, ?_⟩⟩
      · rw [Cache.get?_erase] at found
        cases found
      · rw [← provider] at apart
        exact ends.preserves apart (apart.perform _)
      · intro numbered id
        rw [← provider] at numbered ⊢
        exact numbered.itemsOf_ends_create ends
  · have found := (finds.true_of_ok (some l) rfl).symm
    refine Silent.ensures_guard (silent_log _ _ _) (Program.ensures_pure_iff.mpr ?_)
    refine ⟨finds.quiet.later, finds.index, fun apart => ?_, fun l' _ same => ?_,
      fun l' _ same said => ?_, nofun⟩
    · rwa [provider]
    · cases same
      rw [provider]
      exact ⟨found, (Provider.contents_of_named? found).symm⟩
    · cases same
      exact (said l found).frame finds.quiet.later (by rw [provider]) finds.items

theorem ensures_obtainList_unasked (target : ListTarget) (s : Scene) :
    Sync.Ensures (obtainList target) s fun es _ _ => ∀ m ∈ es, ¬ m.isAboutItems := by
  let Q : Call → Prop := fun c => c = .listLists target.account ∨
    c = .createList target.account target.name target.description
  have usual := usual_calls Q
  have only : OnlyAsks (Calls Q) (obtainList target) := by
    rw [obtainList_eq]
    exact (onlyAsks_findList usual trivial (.inl rfl)).bind
      fun _ => onlyAsks_obtainFrom usual (.inr rfl) _
  refine (only.ensures_asks s).mono fun es reply s' asks m mem => ?_
  have asked := asks m mem
  cases m with
  | called c reply before after => rcases asked with rfl | rfl <;> exact Bool.false_ne_true
  | stopAsked | detected | told => exact Bool.false_ne_true

end Directory

namespace Reconcile

variable {target : ListTarget} {sightings : Sightings} {id : String} {blocks missing : List Block}
  {excess : List ListItem} {changed done : Bool} {s s' : Scene} {es : List Moment} {report : Report}

theorem Added.sameLists (added : Added target id s blocks es done s') : s.SameLists s' := by
  cases added with
  | none => exact ⟨Nat.le_refl _, rfl, rfl⟩
  | added _ _ _ _ _ adds | refused _ _ _ _ _ adds =>
    exact adds.sameLists Provider.changesItems_create

theorem Exchanged.sameLists {result : Outcome × Bool}
    (exchanged : Exchanged target id missing excess changed s es result s') : s.SameLists s' := by
  cases exchanged with
  | refused es s' added | added es s' added | stopped es s' added => exact added.sameLists
  | removed es es' s₁ s' added some removes | unremoved es es' e s₁ s' added some removes =>
    exact added.sameLists.trans (removes.sameLists Provider.changesItems_delete)

theorem Exchanged.itemsUnread
    (exchanged : Exchanged target id missing excess changed s es (.failed, false) s') :
    s'.ItemsUnread id := by
  generalize result : (Outcome.failed, false) = ended at exchanged
  cases exchanged with
  | refused es s' added =>
    cases added with
    | refused blocks e es s' some adds => exact adds.itemsUnread
  | added | removed => cases congrArg Prod.fst result
  | stopped => cases congrArg Prod.snd result
  | unremoved es es' e s₁ s' added some removes => exact removes.itemsUnread

theorem Exchanged.unhindered {result : Outcome × Bool}
    (exchanged : Exchanged target id missing excess changed s es result s')
    (free : ∀ m ∈ es, ¬ m.Hinders) : result = (.updated, false) := by
  rcases exchanged.outcome_cases with updated | ⟨_, m, mem, hinders⟩
  · cases exchanged with
    | refused | unremoved => cases updated
    | added | removed => rfl
    | stopped es s' added =>
      exact absurd (.inr rfl) (free _ (List.mem_append_right es (List.mem_singleton_self _)))
  · exact absurd hinders (free m mem)

/-- The ways in which populating a list ends, whatever is cached of items. -/
inductive Attempted (target : ListTarget) (sightings : Sightings) (s : Scene) :
    List Moment → Report → Scene → Prop
  | stopped : Attempted target sightings s [.stopAsked true] ⟨.list target.print, .failed, true⟩ s
  | unobtained (es : List Moment) (e : Failure) (s' : Scene)
    (acquires : Acquires target s es (.error e) s') (unasked : ∀ m ∈ es, ¬ m.isAboutItems) :
    Attempted target sightings s (.stopAsked false :: es) ⟨.list target.print, .failed, false⟩ s'
  | unlisted (es es' : List Moment) (l : NamedList) (created : Bool) (e : Failure) (s₁ s' : Scene)
    (acquires : Acquires target s es (.ok (l, created)) s₁)
    (reads : ReadsItems l.id s₁ es' (.error e) s') :
    Attempted target sightings s (.stopAsked false :: (es ++ es'))
      ⟨.list target.print, .failed, false⟩ s'
  | current (es es' : List Moment) (l : NamedList) (created : Bool) (items : List ListItem)
    (s₁ s' : Scene) (outcome : Outcome) (acquires : Acquires target s es (.ok (l, created)) s₁)
    (reads : ReadsItems l.id s₁ es' (.ok items) s') (missing : sightings.missing items = [])
    (excess : sightings.excess items = []) (done : outcome ≠ .failed) :
    Attempted target sightings s (.stopAsked false :: (es ++ es'))
      ⟨.list target.print, outcome, false⟩ s'
  | exchanged (es es' es'' : List Moment) (l : NamedList) (created : Bool) (items : List ListItem)
    (s₁ s₂ s' : Scene) (outcome : Outcome) (stopped : Bool)
    (acquires : Acquires target s es (.ok (l, created)) s₁)
    (reads : ReadsItems l.id s₁ es' (.ok items) s₂)
    (exchanged : Exchanged target l.id (sightings.missing items) (sightings.excess items) created s₂
      es'' (outcome, stopped) s') :
    Attempted target sightings s (.stopAsked false :: (es ++ (es' ++ es'')))
      ⟨.list target.print, outcome, stopped⟩ s'

theorem ensures_populate_attempted (h : s.IndexTrue target.account) (sightings : Sightings) :
    Sync.Ensures (populate target sightings) s (Attempted target sightings s) := by
  refine ensures_stopRequested_iff.mpr fun stop => ?_
  cases stop with
  | true => exact Program.ensures_pure_iff.mpr .stopped
  | false =>
    refine ((ensures_acquires h).and (ensures_obtainList_unasked target s)).bind
      fun es reply s₁ ⟨acquires, unasked⟩ => ?_
    cases reply with
    | error e =>
      refine ensures_log_iff.mpr (Program.ensures_pure_iff.mpr ?_)
      rw [List.append_nil]
      exact .unobtained es e s₁ acquires unasked
    | ok found =>
      obtain ⟨l, created⟩ := found
      refine (silent_log _ _ _).ensures_guard ?_
      refine (ensures_readsItems target l.id s₁).bind fun es' reply s₂ reads => ?_
      cases reply with
      | error e =>
        refine ensures_log_iff.mpr (Program.ensures_pure_iff.mpr ?_)
        rw [List.append_nil]
        exact .unlisted es es' l created e s₁ s₂ acquires reads
      | ok items =>
        refine (silent_forM (silent_remarkKept _ _) _).ensures_bind ?_
        dsimp only
        split
        · next none =>
          obtain ⟨missing, excess⟩ := Bool.and_eq_true_iff.mp none
          refine ensures_log_iff.mpr (Program.ensures_pure_iff.mpr ?_)
          rw [List.append_nil]
          refine .current es es' l created items s₁ s₂ _ acquires reads
            (List.isEmpty_iff.mp missing) (List.isEmpty_iff.mp excess) ?_
          cases created <;> exact nofun
        · refine (ensures_exchange _ _ _ _ _ s₂).bind fun es'' result s' exchanged => ?_
          refine Program.ensures_pure_iff.mpr ?_
          rw [List.append_nil]
          exact .exchanged es es' es'' l created items s₁ s₂ s' _ _ acquires reads exchanged

theorem Attempted.indexTrue (attempted : Attempted target sightings s es report s')
    (h : s.IndexTrue target.account) : s'.IndexTrue target.account := by
  cases attempted with
  | stopped => exact h
  | unobtained es e s' acquires => exact acquires.index
  | unlisted es es' l created e s₁ s' acquires reads
  | current es es' l created items s₁ s' outcome acquires reads =>
    exact reads.sameLists.indexTrue acquires.index
  | exchanged es es' es'' l created items s₁ s₂ s' outcome stopped acquires reads exchanged =>
    exact (reads.sameLists.trans exchanged.sameLists).indexTrue acquires.index

theorem Attempted.itemsTrue (attempted : Attempted target sightings s es report s')
    (failed : report.outcome = .failed) (ended : report.stopped = false)
    (numbered : s.provider.Numbered) (said : (∃ m ∈ es, m.isAboutItems) ∨
      ∀ l, s'.provider.named? target = some l → s.ItemsTrue l.id) :
    ∀ l, s'.provider.named? target = some l → s'.ItemsTrue l.id := by
  have unread {l : NamedList} {s₁ : Scene} {es : List Moment} {created : Bool}
      (acquires : Acquires target s es (.ok (l, created)) s₁) (same : s₁.SameLists s')
      (unread : s'.ItemsUnread l.id) :
      ∀ l, s'.provider.named? target = some l → s'.ItemsTrue l.id := by
    intro l' named
    rw [same.named?, (acquires.named l created rfl).1] at named
    cases named
    exact unread.itemsTrue
  cases attempted with
  | stopped => cases ended
  | unobtained es e s' acquires unasked =>
    obtain ⟨_, kept, held⟩ := acquires.failed e rfl
    rcases said with ⟨m, mem, about⟩ | said
    · rcases List.mem_cons.mp mem with rfl | mem
      · cases about
      · exact absurd about (unasked m mem)
    · exact fun l named => (said l named).frame acquires.later (held numbered l.id) kept
  | unlisted es es' l created e s₁ s' acquires reads =>
    exact unread acquires reads.sameLists (reads.failed e rfl).1
  | current es es' l created items s₁ s' outcome acquires reads missing excess done =>
    exact absurd failed done
  | exchanged es es' es'' l created items s₁ s₂ s' outcome stopped acquires reads exchanged =>
    obtain rfl : outcome = .failed := failed
    obtain rfl : stopped = false := ended
    exact unread acquires (reads.sameLists.trans exchanged.sameLists) exchanged.itemsUnread

theorem Attempted.applied (attempted : Attempted target sightings s es report s')
    (apart : s.provider.ItemsApart)
    (said : ∀ l, s.provider.named? target = some l → s.ItemsTrue l.id)
    (free : ∀ m ∈ es, ¬ m.Hinders) :
    ∃ l made, s'.provider.named? target = some l ∧
      Provider.Unnumbered made (s.provider.contents target) ∧
        s'.provider.itemsOf l.id = sightings.applied made (s.provider.contents target) := by
  cases attempted with
  | stopped => exact absurd (.inr rfl) (free _ (List.mem_singleton_self _))
  | unobtained es e s' acquires =>
    obtain ⟨m, mem, fails⟩ := (acquires.failed e rfl).1
    exact absurd (.inl fails) (free m (List.mem_cons_of_mem _ mem))
  | unlisted es es' l created e s₁ s' acquires reads =>
    obtain ⟨m, mem, fails⟩ := (reads.failed e rfl).2
    exact absurd (.inl fails) (free m (List.mem_cons_of_mem _ (List.mem_append_right es mem)))
  | current es es' l created items s₁ s' outcome acquires reads missing excess =>
    obtain ⟨named, held⟩ := acquires.named l created rfl
    have unnumbered := (acquires.apart apart).unnumbered l.id
    have live := reads.true_of_ok (acquires.items l created rfl said) items rfl
    rw [held] at unnumbered live
    rw [live] at missing excess
    refine ⟨l, s₁.provider.made, (reads.sameLists.named? target).trans named, unnumbered, ?_⟩
    rw [reads.quiet.provider, held, applied_of_current missing excess]
  | exchanged es es' es'' l created items s₁ s₂ s' outcome stopped acquires reads exchanged =>
    have same := exchanged.unhindered fun m mem =>
      free m (List.mem_cons_of_mem _ (List.mem_append_right es (List.mem_append_right es' mem)))
    obtain ⟨named, held⟩ := acquires.named l created rfl
    have apart := acquires.apart apart
    have live := reads.true_of_ok (acquires.items l created rfl said) items rfl
    rw [same] at exchanged
    rw [held] at live
    rw [← reads.quiet.provider] at held apart
    have unnumbered := apart.unnumbered l.id
    have distinct := apart.distinct l.id
    rw [held] at unnumbered distinct
    rw [live] at exchanged
    obtain ⟨after, lists⟩ := exchanged.applied held distinct unnumbered
    have sameLists := reads.sameLists.trans exchanged.sameLists
    exact ⟨l, s₂.provider.made, (sameLists.named? target).trans named, unnumbered, after⟩

theorem unhindered_of_populate (run : Sync.Runs (populate target sightings) s es report s')
    (smooth : Untroubled es) : ∀ m ∈ es, ¬ m.Hinders := by
  intro m mem hinders
  have asked := (onlyCalls_populate target sightings).ensures_asks s _ _ _ run m mem
  have clear := smooth m mem
  rcases hinders with fails | rfl
  · cases m with
    | called c reply before after =>
      obtain ⟨rfl, _⟩ := clear
      cases c with
      | listLists | listItems | createList | createItems => cases fails
      | deleteItems account id ids =>
        rw [Moment.Fails, Provider.perform] at fails
        split at fails <;> cases fails
      | _ => cases asked
    | stopAsked | detected | told => cases fails
  · cases clear

end Reconcile

end AddressSync
