import AddressSync.Proofs.Cache.Stamps
import AddressSync.Proofs.Directory.Coherence
import AddressSync.Proofs.Reconcile.Choice
import AddressSync.Proofs.Reconcile.Population

/-! Which requests the work on records and on lists may come to make, whatever it is answered: only
such calls as are about its subject, and once that was read, nothing more is looked up. -/

namespace AddressSync

open Sync Directory Program

namespace Sync

variable {α β : Type} {P : Request → Prop} {p : Sync α}

def Lasting (change : Nat → Caches → Caches) : Prop := ∀ t c, (change t c).lifetimes = c.lifetimes

theorem Stamping.lasting {change : Nat → Caches → Caches} (stamping : Stamping change) :
    Lasting change :=
  fun t c => (stamping t c).lifetimes

def OnlyAsks (P : Request → Prop) (p : Sync α) : Prop := p.Asks (S := signature) P

structure Usual (P : Request → Prop) : Prop where
  revise : ∀ change, Stamping change → P (.revise change)
  stopRequested : P .stopRequested
  log : ∀ line, P (.log line)

def Calls (Q : Call → Prop) : Request → Prop
  | .call c => Q c
  | .revise change => Lasting change
  | .detect .. | .emit _ | .limitWork _ => False
  | .look | .stopRequested | .log _ => True

theorem usual_calls (Q : Call → Prop) : Usual (Calls Q) :=
  ⟨fun _ stamping => stamping.lasting, trivial, fun _ => trivial⟩

theorem usual_ne_look : Usual (· ≠ .look) := ⟨fun _ _ => nofun, nofun, fun _ => nofun⟩

theorem onlyAsks_pure (a : α) : OnlyAsks P (pure a : Sync α) := asks_pure a

theorem OnlyAsks.bind {f : α → Sync β} (first : OnlyAsks P p) (rest : ∀ a, OnlyAsks P (f a)) :
    OnlyAsks P (p >>= f) :=
  Asks.bind first rest

theorem onlyAsks_look (asked : P .look) : OnlyAsks P look := ⟨asked, fun _ => trivial⟩

theorem onlyAsks_call {c : Call} (asked : P (.call c)) : OnlyAsks P (call c) :=
  ⟨asked, fun _ => trivial⟩

section

variable (usual : Usual P)

include usual

theorem onlyAsks_revise {change : Nat → Caches → Caches} (stamping : Stamping change) :
    OnlyAsks P (revise change) :=
  ⟨usual.revise change stamping, fun _ => trivial⟩

theorem onlyAsks_stopRequested : OnlyAsks P stopRequested :=
  ⟨usual.stopRequested, fun _ => trivial⟩

theorem Silent.onlyAsks {p : Sync Unit} (silent : Silent p) : OnlyAsks P p := by
  refine Asks.mono silent ?_
  rintro _ ⟨line, rfl⟩
  exact usual.log line

theorem Silent.onlyAsks_pure {p : Sync Unit} (silent : Silent p) (a : α) :
    OnlyAsks P (p >>= fun _ => pure a) :=
  (silent.onlyAsks usual).bind fun _ => Sync.onlyAsks_pure a

theorem Silent.onlyAsks_guard {c : Prop} [Decidable c] {p : Sync Unit} {f : Unit → Sync β}
    (silent : Silent p) (rest : OnlyAsks P (f ())) :
    OnlyAsks P (if c then p >>= f else f ()) := by
  split
  · exact (silent.onlyAsks usual).bind fun _ => rest
  · exact rest

theorem onlyAsks_log (level : Log.Level) (message : String) (fields : List (String × Log.Field)) :
    OnlyAsks P (log level message fields) :=
  (silent_log level message fields).onlyAsks usual

theorem onlyAsks_log_pure {level : Log.Level} {message : String} {fields : List (String × Log.Field)}
    (a : α) : OnlyAsks P (log level message fields >>= fun _ => pure a) :=
  (silent_log level message fields).onlyAsks_pure usual a

theorem onlyAsks_unless_stopped {stopped rest : Sync α} (early : OnlyAsks P stopped)
    (later : OnlyAsks P rest) :
    OnlyAsks P (stopRequested >>= fun stop => if stop then stopped else rest) := by
  refine (onlyAsks_stopRequested usual).bind fun stop => ?_
  cases stop with
  | true => exact early
  | false => exact later

end

theorem OnlyAsks.ensures_lifetimes {Q : Call → Prop} (only : OnlyAsks (Calls Q) p) (s : Scene) :
    Sync.Ensures p s fun _ _ s' => s'.caches.lifetimes = s.caches.lifetimes := by
  intro es a s' run
  refine Asks.relates (R := fun s _ s' => s'.caches.lifetimes = s.caches.lifetimes) only run
    (fun _ => rfl) ?_
  intro s r x es s' es' s'' allowed answered rest
  refine rest.trans ?_
  cases r with
  | call c => rw [answered.2.1]
  | detect | emit | limitWork => cases allowed
  | look => rw [answered.2.1]
  | revise change =>
    rw [answered.2.1]
    exact allowed s'.now s.caches
  | stopRequested | log => rw [answered.1]

end Sync

namespace Directory

section

variable {key : RecordsKey} {id account : String}

theorem stamping_patchRecords (change : List Record → List Record) :
    Stamping (patchRecords key change) :=
  fun now c => { Caches.stamped_refl now c with records := Cache.stamped_modify change }

theorem stamping_dropRecords : Stamping fun _ => dropRecords key :=
  fun now c => { Caches.stamped_refl now c with records := Cache.stamped_erase }

theorem stamping_patchItems (change : List ListItem → List ListItem) :
    Stamping (patchItems id change) :=
  fun now c => { Caches.stamped_refl now c with items := Cache.stamped_modify change }

theorem stamping_dropItems : Stamping fun _ => dropItems id :=
  fun now c => { Caches.stamped_refl now c with items := Cache.stamped_erase }

theorem stamping_storeItems (items : List ListItem) :
    Stamping fun now c => { c with items := c.items.set now id items } :=
  fun now c => { Caches.stamped_refl now c with items := Cache.stamped_set items }

theorem stamping_patchIndex (change : ListIndex → ListIndex) :
    Stamping fun now c => { c with indexes := c.indexes.modify now account change } :=
  fun now c => { Caches.stamped_refl now c with indexes := Cache.stamped_modify change }

theorem stamping_dropIndex : Stamping fun _ c => { c with indexes := c.indexes.erase account } :=
  fun now c => { Caches.stamped_refl now c with indexes := Cache.stamped_erase }

theorem stamping_storeIndex (index : ListIndex) :
    Stamping fun now c => { c with indexes := c.indexes.set now account index } :=
  fun now c => { Caches.stamped_refl now c with indexes := Cache.stamped_set index }

theorem stamping_storeRecords (records : List Record) :
    Stamping fun now c => { c with records := c.records.set now key records } :=
  fun now c => { Caches.stamped_refl now c with records := Cache.stamped_set records }

theorem stamping_storeZones (name : String) (zones : List Zone) :
    Stamping fun now c => { c with zones := c.zones.set now name zones } :=
  fun now c => { Caches.stamped_refl now c with zones := Cache.stamped_set zones }

theorem stamping_storeOwner (domain : Domain) (zone : String) :
    Stamping fun now c => { c with owners := c.owners.set now domain zone } :=
  fun now c => { Caches.stamped_refl now c with owners := Cache.stamped_set zone }

end

variable {P : Request → Prop} (usual : Usual P)

include usual

theorem onlyAsks_change {c : Call} {patch : c.Reply → Nat → Caches → Caches}
    {forget : Caches → Caches} (asked : P (.call c)) (patched : ∀ x, Stamping (patch x))
    (forgot : Stamping fun _ => forget) : OnlyAsks P (change c patch forget) := by
  refine (onlyAsks_call asked).bind fun reply => ?_
  cases reply with
  | error e => exact (onlyAsks_revise usual forgot).bind fun _ => onlyAsks_pure _
  | ok reply => exact (onlyAsks_revise usual (patched reply)).bind fun _ => onlyAsks_pure _

theorem onlyAsks_changeRecords {c : Call} {key : RecordsKey}
    {change : c.Reply → List Record → List Record} (asked : P (.call c)) :
    OnlyAsks P (Directory.change c (fun x => patchRecords key (change x)) (dropRecords key)) :=
  onlyAsks_change usual asked (fun _ => stamping_patchRecords _) stamping_dropRecords

theorem onlyAsks_changeItems {c : Call} {id : String}
    {change : c.Reply → List ListItem → List ListItem} (asked : P (.call c)) :
    OnlyAsks P (Directory.change c (fun x => patchItems id (change x)) (dropItems id)) :=
  onlyAsks_change usual asked (fun _ => stamping_patchItems _) stamping_dropItems

theorem onlyAsks_fetch {c : Call} {ν : Type} {cached : Nat → Caches → Option ν} {hit : Sync Unit}
    {read : c.Reply → ν} {store : ν → Nat → Caches → Caches} (silent : Silent hit)
    (looked : P .look) (asked : P (.call c)) (stored : ∀ value, Stamping (store value)) :
    OnlyAsks P (fetch c cached hit read store) := by
  refine (onlyAsks_look looked).bind fun (now, caches) => ?_
  dsimp only
  split
  · exact silent.onlyAsks_pure usual _
  · refine (onlyAsks_call asked).bind fun reply => ?_
    cases reply with
    | error e => exact onlyAsks_pure _
    | ok reply => exact (onlyAsks_revise usual (stored _)).bind fun _ => onlyAsks_pure _

theorem onlyAsks_owner (looked : P .look) (asked : ∀ name, P (.call (.listZones name)))
    (domain : Domain) : OnlyAsks P (owner domain) := by
  have among (names : List String) : OnlyAsks P (ownerAmong domain names) := by
    induction names with
    | nil => exact onlyAsks_pure _
    | cons name rest ih =>
      refine (onlyAsks_fetch usual (silent_log _ _ _) looked (asked name)
        (stamping_storeZones name)).bind
        fun reply => ?_
      cases reply with
      | error e => exact onlyAsks_pure _
      | ok found =>
        refine ((silent_forM (silent_remark name) found).onlyAsks usual).bind fun _ => ?_
        split
        · exact ih
        · refine (onlyAsks_log usual _ _ _).bind fun _ => ?_
          exact (onlyAsks_revise usual (stamping_storeOwner _ _)).bind fun _ => onlyAsks_pure _
        · exact onlyAsks_pure _
  refine (onlyAsks_look looked).bind fun (now, caches) => ?_
  dsimp only
  split
  · exact onlyAsks_log_pure usual _
  · exact among _

theorem onlyAsks_findList {target : ListTarget} (looked : P .look)
    (asked : P (.call (.listLists target.account))) : OnlyAsks P (findList target) := by
  refine (onlyAsks_fetch usual (silent_log _ _ _) looked asked stamping_storeIndex).bind
    fun reply => ?_
  cases reply with
  | error e | ok index => exact onlyAsks_pure _

def obtainFrom (target : ListTarget) :
    Except Failure (Option NamedList) → Sync (Except Failure (NamedList × Bool))
  | .error e => return .error e
  | .ok (some list) => do
    if target.description ≠ "" ∧ list.description ≠ target.description then
      log .warn
        "IP list description differs from the configured one; leaving it unchanged"
        [("list", .text target.print), ("expected", .text target.description),
          ("actual", .text list.description)]
    return .ok (list, false)
  | .ok none => do
    match ← call (.createList target.account target.name target.description) with
    | .ok list =>
      revise fun now c =>
        { c with indexes := c.indexes.modify now target.account (·.insert list) }
      revise fun now c => { c with items := c.items.set now list.id [] }
      return .ok (list, true)
    | .error e =>
      forgetIndex target.account
      return .error e

omit usual in
theorem obtainList_eq (target : ListTarget) :
    obtainList target = findList target >>= obtainFrom target := by
  refine congrArg (findList target >>= ·) (funext fun reply => ?_)
  rcases reply with e | _ | list <;> rfl

theorem onlyAsks_obtainFrom {target : ListTarget}
    (created : P (.call (.createList target.account target.name target.description)))
    (reply : Except Failure (Option NamedList)) : OnlyAsks P (obtainFrom target reply) := by
  rcases reply with e | _ | list
  · exact onlyAsks_pure _
  · refine (onlyAsks_call created).bind fun reply => ?_
    cases reply with
    | ok list =>
      refine (onlyAsks_revise usual (stamping_patchIndex _)).bind fun _ => ?_
      exact (onlyAsks_revise usual (stamping_storeItems _)).bind fun _ => onlyAsks_pure _
    | error e => exact (onlyAsks_revise usual stamping_dropIndex).bind fun _ => onlyAsks_pure _
  · rw [obtainFrom]
    exact (silent_log _ _ _).onlyAsks_guard usual (onlyAsks_pure _)

theorem onlyAsks_deleteList {target : ListTarget} {id : String}
    (deleted : P (.call (.deleteList target.account id))) : OnlyAsks P (deleteList target id) := by
  refine (onlyAsks_call deleted).bind fun reply => ?_
  cases reply with
  | ok x =>
    refine (onlyAsks_revise usual (stamping_patchIndex _)).bind fun _ => ?_
    exact (onlyAsks_revise usual stamping_dropItems).bind fun _ => onlyAsks_pure _
  | error e =>
    refine (onlyAsks_revise usual stamping_dropIndex).bind fun _ => ?_
    exact (onlyAsks_revise usual stamping_dropItems).bind fun _ => onlyAsks_pure _

theorem onlyAsks_replaceItems {target : ListTarget} {id : String} {blocks : List Block}
    (replaced : P (.call (.replaceItems target.account id blocks))) :
    OnlyAsks P (replaceItems target id blocks) := by
  refine (onlyAsks_call replaced).bind fun _ => ?_
  exact (onlyAsks_revise usual stamping_dropItems).bind fun _ => onlyAsks_pure _

end Directory

namespace Reconcile

section

variable {P : Request → Prop} (usual : Usual P)

include usual

theorem onlyAsks_locate {domain : Domain} {family : Family} (looked : P .look)
    (zones : ∀ name, P (.call (.listZones name)))
    (listed : ∀ zone, P (.call (.listRecords zone domain family))) (fresh : Bool) :
    OnlyAsks P (locate domain family fresh) := by
  refine (onlyAsks_owner usual looked zones domain).bind fun reply => ?_
  have rest (zone : String) : OnlyAsks P (Reconcile.listed zone domain family) := by
    refine (onlyAsks_fetch usual (silent_log _ _ _) looked (listed zone) stamping_storeRecords).bind
      fun reply => ?_
    cases reply with
    | error e =>
      exact (silent_logIntegrity _ _ _ _).onlyAsks_pure usual _
    | ok records => exact onlyAsks_pure _
  cases reply with
  | error e => exact (silent_logIntegrity _ _ _ _).onlyAsks_pure usual _
  | ok zone =>
    cases fresh with
    | true => exact (onlyAsks_revise usual stamping_dropRecords).bind fun _ => rest zone
    | false => exact rest zone

theorem onlyAsks_keepOne {t : Target} (updated : ∀ id, P (.call (t.update id)))
    (records : List Record) : OnlyAsks P (keepOne t records) := by
  unfold keepOne
  split
  · exact onlyAsks_pure _
  · refine ((silent_remarkAttributes _ _ _ _).onlyAsks usual).bind fun _ => ?_
    refine (onlyAsks_changeRecords usual (updated _)).bind fun reply => ?_
    cases reply with
    | ok x | error e => exact onlyAsks_log_pure usual _
  · exact onlyAsks_pure _

theorem onlyAsks_createOne {t : Target} (created : P (.call t.create)) :
    OnlyAsks P (createOne t) := by
  refine (onlyAsks_changeRecords usual created).bind fun reply => ?_
  cases reply with
  | ok record | error e => exact onlyAsks_log_pure usual _

theorem onlyAsks_removeRest {t : Target} (deleted : ∀ id, P (.call (t.delete id)))
    (progress : Progress) (records : List Record) : OnlyAsks P (removeRest t progress records) := by
  induction records generalizing progress with
  | nil => exact onlyAsks_pure _
  | cons record rest ih =>
    refine onlyAsks_unless_stopped usual (onlyAsks_log_pure usual _) ?_
    refine (onlyAsks_changeRecords usual (deleted record.id)).bind fun reply => ?_
    cases reply with
    | ok x | error e => exact (onlyAsks_log usual _ _ _).bind fun _ => ih _

theorem onlyAsks_converge {t : Target} (created : P (.call t.create))
    (updated : ∀ id, P (.call (t.update id))) (deleted : ∀ id, P (.call (t.delete id)))
    (records : List Record) : OnlyAsks P (converge t records) := by
  have settle : OnlyAsks P (settle t records) := by
    refine (onlyAsks_keepOne usual updated records).bind fun (kept?, progress) => ?_
    cases kept? with
    | some kept => exact onlyAsks_pure _
    | none => exact (onlyAsks_createOne usual created).bind fun _ => onlyAsks_pure _
  refine settle.bind fun (kept?, progress) => ?_
  cases kept? with
  | none => exact onlyAsks_pure _
  | some kept =>
    refine (onlyAsks_removeRest usual deleted progress _).bind fun (outcome, stopped) => ?_
    exact (silent_log _ _ _).onlyAsks_guard usual (onlyAsks_pure _)

theorem onlyAsks_removeEach {zone : String} {domain : Domain} {family : Family} {last failed : Bool}
    {total gone : Nat} (deleted : ∀ id, P (.call (.deleteRecord zone id))) (records : List Record) :
    OnlyAsks P (removeEach zone domain family last total gone failed records) := by
  induction records generalizing gone failed with
  | nil => exact onlyAsks_pure _
  | cons record rest ih =>
    refine onlyAsks_unless_stopped usual (onlyAsks_log_pure usual _) ?_
    refine (onlyAsks_changeRecords usual (deleted record.id)).bind fun reply => ?_
    cases reply with
    | ok x | error e => exact (onlyAsks_log usual _ _ _).bind fun _ => ih

theorem onlyAsks_addBatch {target : ListTarget} {id : String} {blocks : List Block}
    (added : P (.call (addition target id blocks))) : OnlyAsks P (addBatch target id blocks) := by
  refine (onlyAsks_changeItems usual added).bind fun reply => ?_
  cases reply with
  | ok created => exact (silent_forM (fun _ => silent_log _ _ _) _).onlyAsks_pure usual _
  | error e => exact onlyAsks_log_pure usual _

theorem onlyAsks_removeBatch {target : ListTarget} {id : String} {excess : List ListItem}
    (removed : P (.call (removal target id excess))) :
    OnlyAsks P (removeBatch target id excess) := by
  refine (onlyAsks_changeItems usual removed).bind fun reply => ?_
  cases reply with
  | ok x => exact (silent_forM (fun _ => silent_log _ _ _) _).onlyAsks_pure usual _
  | error e => exact onlyAsks_log_pure usual _

theorem onlyAsks_exchange {target : ListTarget} {id : String} {blocks : List Block}
    {excess : List ListItem} (added : P (.call (addition target id blocks)))
    (removed : P (.call (removal target id excess))) (changed : Bool) :
    OnlyAsks P (exchange target id blocks excess changed) := by
  have rest : OnlyAsks P (do
      if excess.isEmpty then return (.updated, false)
      if ← stopRequested then
        log .warn "cancelled before removing outdated IP list items" [("list", .text target.print)]
        return (if changed || !blocks.isEmpty then .updated else .failed, true)
      if ← removeBatch target id excess then return (.updated, false)
      return (Outcome.failed, false)) := by
    split
    · exact onlyAsks_pure _
    · refine onlyAsks_unless_stopped usual (onlyAsks_log_pure usual _) ?_
      refine (onlyAsks_removeBatch usual removed).bind fun done => ?_
      cases done with
      | true | false => exact onlyAsks_pure _
  unfold exchange
  cases blocks with
  | nil => exact rest
  | cons block blocks =>
    refine (onlyAsks_addBatch usual added).bind fun done => ?_
    cases done with
    | true => exact rest
    | false => exact onlyAsks_pure _

end

variable {domain : Domain} {family : Family} {address : Address} {attributes : Attributes}
  {sightings : Sightings} {P : Request → Prop}

def Publishes (domain : Domain) (family : Family) (address : Address) : Call → Prop
  | .listZones _ | .deleteRecord .. => True
  | .listRecords _ domain' family' => domain' = domain ∧ family' = family
  | .createRecord _ domain' family' address' _ | .updateRecord _ domain' family' _ address' =>
    domain' = domain ∧ family' = family ∧ address' = address
  | _ => False

theorem onlyAsks_publish (usual : Usual P) (looked : P .look)
    (called : ∀ c, Publishes domain family address c → P (.call c)) :
    OnlyAsks P (publish domain family address attributes) := by
  unfold publish
  dsimp only
  split
  · exact onlyAsks_log_pure usual _
  refine onlyAsks_unless_stopped usual (onlyAsks_pure _) ?_
  refine (onlyAsks_locate usual looked (fun _ => called _ trivial) (fun _ => called _ ⟨rfl, rfl⟩)
    false).bind fun found => ?_
  cases found with
  | none => exact onlyAsks_pure _
  | some found =>
    refine OnlyAsks.bind ?_ fun _ => onlyAsks_pure _
    exact onlyAsks_converge usual (called _ ⟨rfl, rfl, rfl⟩) (fun _ => called _ ⟨rfl, rfl, rfl⟩)
      (fun _ => called _ trivial) _

theorem onlyCalls_publish (domain : Domain) (family : Family) (address : Address)
    (attributes : Attributes) :
    OnlyAsks (Calls (Publishes domain family address)) (publish domain family address attributes) :=
  onlyAsks_publish (usual_calls _) trivial fun _ allowed => allowed

def Withdraws : Call → Prop
  | .listZones _ | .listRecords .. | .deleteRecord .. => True
  | _ => False

theorem onlyAsks_withdraw (usual : Usual P) (looked : P .look)
    (called : ∀ c, Withdraws c → P (.call c)) (last : Bool) :
    OnlyAsks P (withdraw domain family last) := by
  refine onlyAsks_unless_stopped usual (onlyAsks_pure _) ?_
  refine (onlyAsks_locate usual looked (fun _ => called _ trivial) (fun _ => called _ trivial)
    last).bind fun found => ?_
  rcases found with _ | ⟨zone, _ | ⟨record, rest⟩⟩
  · exact onlyAsks_pure _
  · exact onlyAsks_log_pure usual _
  · exact (onlyAsks_removeEach usual (fun _ => called _ trivial) _).bind fun _ => onlyAsks_pure _

theorem onlyCalls_withdraw (domain : Domain) (family : Family) (last : Bool) :
    OnlyAsks (Calls Withdraws) (withdraw domain family last) :=
  onlyAsks_withdraw (usual_calls Withdraws) trivial (fun _ allowed => allowed) last

def Populates (sightings : Sightings) : Call → Prop
  | .listLists _ | .createList .. | .listItems .. | .deleteItems .. => True
  | .createItems _ _ blocks _ => ∀ block ∈ blocks, ∃ family address,
    sightings.of family = .seen address ∧ block = address.listedBlock
  | _ => False

theorem seen_of_mem_missing {items : List ListItem} {block : Block}
    (mem : block ∈ sightings.missing items) : ∃ family address,
      sightings.of family = .seen address ∧ block = address.listedBlock := by
  obtain ⟨family, _, missing⟩ := List.mem_filterMap.mp mem
  unfold Sightings.missingFor Sightings.goal at missing
  split at missing
  · next address goal =>
    split at goal
    · cases goal
    · cases goal
    · next address' sighted =>
      split at goal
      · cases goal
        split at missing
        · cases missing
        · cases missing
          exact ⟨family, address, sighted, rfl⟩
      · cases goal
  · cases missing
  · cases missing

theorem onlyAsks_populate (usual : Usual P) (looked : P .look)
    (called : ∀ c, Populates sightings c → P (.call c)) (target : ListTarget) :
    OnlyAsks P (populate target sightings) := by
  have obtain' : OnlyAsks P (Directory.obtainList target) := by
    rw [obtainList_eq]
    exact (onlyAsks_findList usual looked (called _ trivial)).bind
      fun _ => onlyAsks_obtainFrom usual (called _ trivial) _
  refine onlyAsks_unless_stopped usual (onlyAsks_pure _) ?_
  refine obtain'.bind fun reply => ?_
  cases reply with
  | error e => exact onlyAsks_log_pure usual _
  | ok found =>
    obtain ⟨l, created⟩ := found
    refine (silent_log _ _ _).onlyAsks_guard usual ?_
    have listed : P (.call (.listItems target.account l.id)) := called _ trivial
    refine (onlyAsks_fetch usual (silent_log _ _ _) looked listed stamping_storeItems).bind
      fun reply => ?_
    cases reply with
    | error e => exact onlyAsks_log_pure usual _
    | ok items =>
      refine ((silent_forM (silent_remarkKept _ _) _).onlyAsks usual).bind fun _ => ?_
      dsimp only
      split
      · exact onlyAsks_log_pure usual _
      · have added : Populates sightings
            (addition target l.id (sightings.missing items)) := fun _ => seen_of_mem_missing
        exact (onlyAsks_exchange usual (called _ added) (called _ trivial) created).bind
          fun _ => onlyAsks_pure _

theorem onlyCalls_populate (target : ListTarget) (sightings : Sightings) :
    OnlyAsks (Calls (Populates sightings)) (populate target sightings) :=
  onlyAsks_populate (usual_calls _) trivial (fun _ allowed => allowed) target

end Reconcile

end AddressSync
