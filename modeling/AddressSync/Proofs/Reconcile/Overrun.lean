import AddressSync.Proofs.Reconcile.Tidiness
import AddressSync.Proofs.Surroundings.Clocked

/-! How far work goes on past its deadline. The deadline is looked at when work begins and before
each removal of records or items, and nowhere else: what was found slow on the way does not keep the
work from going on to the next of these points. -/

namespace AddressSync

open Sync Directory

/-- The deadline is looked at just before a call of this kind. -/
def Call.isGuarded : Call → Bool
  | .listLists _ | .deleteRecord .. | .deleteItems .. => true
  | _ => false

def Pulse.isGuarded : Pulse → Bool
  | .issued c .. => c.isGuarded
  | .limited => false

namespace Clock

/-- Under one deadline, so many calls at most are made past it, and none of them is guarded. -/
structure Overrun (n : Nat) (es : List Pulse) : Prop where
  unlimited : ∀ m ∈ es, ¬ m.Limits
  few : es.countP Pulse.isLate ≤ n
  guarded : ∀ m ∈ es, m.isLate → m.isGuarded = false

variable {α β : Type} {m n : Nat} {s : Clock} {p : Sync α} {es es' : List Pulse}

theorem overrun_nil : Overrun n [] :=
  ⟨fun _ mem => absurd mem List.not_mem_nil, Nat.zero_le n, fun _ mem => absurd mem List.not_mem_nil⟩

theorem Overrun.append (first : Overrun m es) (rest : Overrun n es') :
    Overrun (m + n) (es ++ es') := by
  refine ⟨List.forall_mem_append.mpr ⟨first.unlimited, rest.unlimited⟩, ?_,
    List.forall_mem_append.mpr ⟨first.guarded, rest.guarded⟩⟩
  rw [List.countP_append]
  exact Nat.add_le_add first.few rest.few

theorem Overrun.mono (h : Overrun m es) (more : m ≤ n) : Overrun n es :=
  ⟨h.unlimited, Nat.le_trans h.few more, h.guarded⟩

theorem Overrun.prompt {c : Call} (prompt : s.isPast = false) (rest : Overrun n es) :
    Overrun n (.issued c s.now s.deadline :: es) := by
  have inTime : ¬ (Pulse.issued c s.now s.deadline).isLate := ne_true_of_eq_false prompt
  refine ⟨List.forall_mem_cons.mpr ⟨not_false, rest.unlimited⟩, ?_,
    List.forall_mem_cons.mpr ⟨fun late => absurd late inTime, rest.guarded⟩⟩
  rw [List.countP_cons_of_neg inTime]
  exact rest.few

theorem Overrun.call {c : Call} {time : Nat} {deadline : Option Nat} (free : c.isGuarded = false)
    (rest : Overrun n es) : Overrun (n + 1) (.issued c time deadline :: es) := by
  refine ⟨List.forall_mem_cons.mpr ⟨not_false, rest.unlimited⟩, ?_,
    List.forall_mem_cons.mpr ⟨fun _ => free, rest.guarded⟩⟩
  rw [List.countP_cons]
  have few := rest.few
  split <;> omega

def Overruns (n : Nat) (p : Sync α) (s : Clock) : Prop := Ensures p s fun es _ _ => Overrun n es

theorem overruns_pure (a : α) : Overruns n (pure a : Sync α) s :=
  Program.ensures_pure_iff.mpr overrun_nil

theorem Overruns.bind {f : α → Sync β} (first : Overruns m p s)
    (rest : ∀ a s', Overruns n (f a) s') : Overruns (m + n) (p >>= f) s :=
  Program.Ensures.bind first fun _ a s' before =>
    (rest a s').mono fun _ _ _ after => before.append after

theorem Overruns.mono (h : Overruns m p s) (more : m ≤ n) : Overruns n p s :=
  Program.Ensures.mono h fun _ _ _ overrun => overrun.mono more

theorem overruns_silent {p : Sync Unit} {f : Unit → Sync β} (silent : Silent p)
    (rest : Overruns n (f ()) s) : Overruns n (p >>= f) s :=
  ensures_silent silent rest

theorem overruns_guard {c : Prop} [Decidable c] {p : Sync Unit} {f : Unit → Sync β}
    (silent : Silent p) (rest : Overruns n (f ()) s) :
    Overruns n (if c then p >>= f else f ()) s := by
  split
  · exact overruns_silent silent rest
  · exact rest

theorem overruns_unless_stopped {stopped rest : Sync α} (early : Overruns n stopped s)
    (later : s.isPast = false → Overruns n rest s) :
    Overruns n (stopRequested >>= fun stop => if stop then stopped else rest) s :=
  ensures_stopRequested early later

section

variable {c : Call} {ν : Type} {cached : Nat → Caches → Option ν} {hit : Sync Unit}
  {read : c.Reply → ν} {store : ν → Nat → Caches → Caches} {patch : c.Reply → Nat → Caches → Caches}
  {forget : Caches → Caches}

theorem ensures_fetch {post : List Pulse → Except Failure ν → Clock → Prop} (silent : Silent hit)
    (found : ∀ value, post [] (.ok value) s)
    (called : ∀ reply t, s.now ≤ t → post [.issued c s.now s.deadline] reply { s with now := t }) :
    Ensures (fetch c cached hit read store) s post := by
  refine ensures_look fun seen => ?_
  dsimp only
  split
  · exact ensures_silent silent (Program.ensures_pure_iff.mpr (found _))
  · refine ensures_call fun reply t later => ?_
    cases reply with
    | error e => exact Program.ensures_pure_iff.mpr (called (.error e) t later)
    | ok reply => exact ensures_revise (Program.ensures_pure_iff.mpr (called _ t later))

theorem overruns_fetch (silent : Silent hit) (free : c.isGuarded = false) :
    Overruns 1 (fetch c cached hit read store) s :=
  ensures_fetch silent (fun _ => overrun_nil) fun _ _ _ => overrun_nil.call free

theorem overruns_fetch_prompt (silent : Silent hit) (prompt : s.isPast = false) :
    Overruns 0 (fetch c cached hit read store) s :=
  ensures_fetch silent (fun _ => overrun_nil) fun _ _ _ => overrun_nil.prompt prompt

theorem ensures_change {post : List Pulse → Except Failure c.Reply → Clock → Prop}
    (called : ∀ reply s', post [.issued c s.now s.deadline] reply s') :
    Ensures (change c patch forget) s post := by
  refine ensures_call fun reply t later => ?_
  cases reply with
  | error e => exact ensures_revise (Program.ensures_pure_iff.mpr (called _ _))
  | ok reply => exact ensures_revise (Program.ensures_pure_iff.mpr (called _ _))

theorem overruns_change (free : c.isGuarded = false) : Overruns 1 (change c patch forget) s :=
  ensures_change fun _ _ => overrun_nil.call free

theorem overruns_change_prompt (prompt : s.isPast = false) :
    Overruns 0 (change c patch forget) s :=
  ensures_change fun _ _ => overrun_nil.prompt prompt

end

variable {domain : Domain} {names : List String} {target : ListTarget}

theorem overruns_zones {name : String} : Overruns 1 (zones name) s :=
  overruns_fetch (silent_log _ _ _) rfl

theorem overruns_ownerAmong : Overruns names.length (ownerAmong domain names) s := by
  induction names generalizing s with
  | nil => exact overruns_pure _
  | cons name rest ih =>
    rw [List.length_cons, Nat.add_comm]
    refine overruns_zones.bind fun reply s' => ?_
    cases reply with
    | error e => exact overruns_pure _
    | ok found =>
      refine overruns_silent (silent_forM (silent_remark name) found) ?_
      split
      · exact ih
      · exact overruns_silent (silent_log _ _ _) (ensures_revise (overruns_pure _))
      · exact overruns_pure _

/-- The first name is asked for in time, each of the others perhaps not. -/
theorem overruns_owner (prompt : s.isPast = false) :
    Overruns (domain.zoneNames.length - 1) (owner domain) s := by
  refine ensures_look fun seen => ?_
  dsimp only
  split
  · exact overruns_silent (silent_log _ _ _) (overruns_pure _)
  · generalize domain.zoneNames = names
    cases names with
    | nil => exact overruns_pure _
    | cons name rest =>
      rw [List.length_cons, Nat.add_sub_cancel, ← Nat.zero_add rest.length]
      refine (overruns_fetch_prompt (silent_log _ _ _) prompt).bind fun reply s' => ?_
      cases reply with
      | error e => exact overruns_pure _
      | ok found =>
        refine overruns_silent (silent_forM (silent_remark name) found) ?_
        split
        · exact overruns_ownerAmong
        · exact overruns_silent (silent_log _ _ _) (ensures_revise (overruns_pure _))
        · exact overruns_pure _

theorem overruns_findList (prompt : s.isPast = false) : Overruns 0 (findList target) s := by
  rw [← Nat.zero_add 0]
  refine (overruns_fetch_prompt (silent_log _ _ _) prompt).bind fun reply s' => ?_
  cases reply with
  | error e | ok index => exact overruns_pure _

theorem overruns_obtainFrom (reply : Except Failure (Option NamedList)) :
    Overruns 1 (obtainFrom target reply) s := by
  rcases reply with e | _ | list
  · exact overruns_pure _
  · refine ensures_call fun reply t later => ?_
    cases reply with
    | ok list =>
      refine ensures_revise (ensures_revise (Program.ensures_pure_iff.mpr ?_))
      exact overrun_nil.call rfl
    | error e => exact ensures_revise (Program.ensures_pure_iff.mpr (overrun_nil.call rfl))
  · rw [obtainFrom]
    exact overruns_guard (silent_log _ _ _) (overruns_pure _)

end Clock

namespace Reconcile

open Clock

variable {n : Nat} {s : Clock} {domain : Domain} {family : Family} {t : Target}
  {target : ListTarget} {id : String} {blocks : List Block} {excess : List ListItem}

theorem overruns_listed {zone : String} : Overruns 1 (listed zone domain family) s := by
  refine Overruns.bind (m := 1) (n := 0) (overruns_fetch (silent_log _ _ _) rfl) fun reply s' => ?_
  cases reply with
  | error e => exact overruns_silent (silent_logIntegrity _ _ _ e) (overruns_pure _)
  | ok found => exact overruns_pure _

theorem overruns_locate {fresh : Bool} (prompt : s.isPast = false) :
    Overruns (domain.zoneNames.length - 1 + 1) (locate domain family fresh) s := by
  refine (overruns_owner prompt).bind fun reply s' => ?_
  cases reply with
  | error e => exact overruns_silent (silent_logIntegrity _ _ _ e) (overruns_pure _)
  | ok zone =>
    cases fresh with
    | true => exact ensures_revise overruns_listed
    | false => exact overruns_listed

theorem overruns_settle (records : List Record) : Overruns 2 (settle t records) s := by
  have repointed (stale : Record) (s : Clock) : Overruns 1 (repoint t stale) s := by
    refine overruns_silent (silent_remarkAttributes _ _ _ _) ?_
    refine Overruns.bind (m := 1) (n := 0) (overruns_change rfl) fun reply s' => ?_
    cases reply with
    | ok x | error e => exact overruns_silent (silent_log _ _ _) (overruns_pure _)
  have kept : Overruns 1 (keepOne t records) s := by
    unfold keepOne
    split
    · exact overruns_pure _
    · exact repointed _ s
    · exact overruns_pure _
  refine Overruns.bind (n := 1) kept fun (kept?, progress) s' => ?_
  cases kept? with
  | some kept => exact overruns_pure _
  | none =>
    refine Overruns.bind (m := 1) (n := 0) ?_ fun _ _ => overruns_pure _
    refine Overruns.bind (m := 1) (n := 0) (overruns_change rfl) fun reply s' => ?_
    cases reply with
    | ok x | error e => exact overruns_silent (silent_log _ _ _) (overruns_pure _)

theorem overruns_removeRest (progress : Progress) (records : List Record) :
    Overruns 0 (removeRest t progress records) s := by
  induction records generalizing progress s with
  | nil => exact overruns_pure _
  | cons record rest ih =>
    refine overruns_unless_stopped (overruns_silent (silent_log _ _ _) (overruns_pure _)) ?_
    intro prompt
    refine Overruns.bind (m := 0) (n := 0) (overruns_change_prompt prompt) fun reply s' => ?_
    cases reply with
    | ok x | error e => exact overruns_silent (silent_log _ _ _) (ih _)

theorem overruns_removeEach {zone : String} {last failed : Bool} {total gone : Nat}
    (records : List Record) :
    Overruns 0 (removeEach zone domain family last total gone failed records) s := by
  induction records generalizing gone failed s with
  | nil => exact overruns_pure _
  | cons record rest ih =>
    refine overruns_unless_stopped (overruns_silent (silent_log _ _ _) (overruns_pure _)) ?_
    intro prompt
    refine Overruns.bind (m := 0) (n := 0) (overruns_change_prompt prompt) fun reply s' => ?_
    cases reply with
    | ok x | error e => exact overruns_silent (silent_log _ _ _) ih

/-- Past the deadline, publishing an address may ask for the zones of all names but the first, for
the records, and for one change and one creation. -/
theorem overruns_publish (address : Address) (attributes : Attributes) :
    Overruns (domain.zoneNames.length - 1 + 3) (publish domain family address attributes) s := by
  unfold publish
  dsimp only
  split
  · exact overruns_silent (silent_log _ _ _) (overruns_pure _)
  refine overruns_unless_stopped (overruns_pure _) fun prompt => ?_
  refine Overruns.bind (n := 2) (overruns_locate prompt) fun found s' => ?_
  rcases found with _ | ⟨zone, records⟩
  · exact overruns_pure _
  · refine Overruns.bind (m := 2) (n := 0) ?_ fun _ _ => overruns_pure _
    refine Overruns.bind (m := 2) (n := 0) (overruns_settle records) fun (kept?, progress) s' => ?_
    cases kept? with
    | none => exact overruns_pure _
    | some kept =>
      refine Overruns.bind (m := 0) (n := 0) (overruns_removeRest progress _) fun result s'' => ?_
      exact overruns_guard (silent_log _ _ _) (overruns_pure _)

theorem overruns_withdraw (last : Bool) :
    Overruns (domain.zoneNames.length - 1 + 1) (withdraw domain family last) s := by
  refine overruns_unless_stopped (overruns_pure _) fun prompt => ?_
  refine Overruns.bind (n := 0) (overruns_locate prompt) fun found s' => ?_
  rcases found with _ | ⟨zone, _ | ⟨record, rest⟩⟩
  · exact overruns_pure _
  · exact overruns_silent (silent_log _ _ _) (overruns_pure _)
  · exact Overruns.bind (m := 0) (n := 0) (overruns_removeEach _) fun _ _ => overruns_pure _

theorem overruns_exchange (changed : Bool) :
    Overruns 1 (exchange target id blocks excess changed) s := by
  have rest (s : Clock) : Overruns 0 (do
      if excess.isEmpty then return (.updated, false)
      if ← stopRequested then
        log .warn "cancelled before removing outdated IP list items" [("list", .text target.print)]
        return (if changed || !blocks.isEmpty then .updated else .failed, true)
      if ← removeBatch target id excess then return (.updated, false)
      return (Outcome.failed, false)) s := by
    split
    · exact overruns_pure _
    · refine overruns_unless_stopped (overruns_silent (silent_log _ _ _) (overruns_pure _)) ?_
      intro prompt
      have removed : Overruns 0 (removeBatch target id excess) s := by
        refine Overruns.bind (m := 0) (n := 0) (overruns_change_prompt prompt) fun reply s' => ?_
        cases reply with
        | ok x => exact overruns_silent (silent_forM (fun _ => silent_log _ _ _) _) (overruns_pure _)
        | error e => exact overruns_silent (silent_log _ _ _) (overruns_pure _)
      refine Overruns.bind (m := 0) (n := 0) removed fun done s' => ?_
      cases done with
      | true | false => exact overruns_pure _
  unfold exchange
  cases blocks with
  | nil => exact (rest s).mono (Nat.zero_le 1)
  | cons block blocks =>
    have added : Overruns 1 (addBatch target id (block :: blocks)) s := by
      refine Overruns.bind (m := 1) (n := 0) (overruns_change rfl) fun reply s' => ?_
      cases reply with
      | ok x => exact overruns_silent (silent_forM (fun _ => silent_log _ _ _) _) (overruns_pure _)
      | error e => exact overruns_silent (silent_log _ _ _) (overruns_pure _)
    refine Overruns.bind (m := 1) (n := 0) added fun done s' => ?_
    cases done with
    | true => exact rest s'
    | false => exact overruns_pure _

theorem overruns_populate (sightings : Sightings) : Overruns 3 (populate target sightings) s := by
  refine overruns_unless_stopped (overruns_pure _) fun prompt => ?_
  rw [obtainList_eq, LawfulMonad.bind_assoc]
  refine Overruns.bind (m := 0) (n := 3) (overruns_findList prompt) fun reply s' => ?_
  refine Overruns.bind (m := 1) (n := 2) (overruns_obtainFrom reply) fun reply s' => ?_
  rcases reply with e | ⟨l, created⟩
  · exact overruns_silent (silent_log _ _ _) (overruns_pure _)
  · refine overruns_guard (silent_log _ _ _) ?_
    refine Overruns.bind (m := 1) (n := 1) (overruns_fetch (silent_log _ _ _) rfl) fun reply s' => ?_
    cases reply with
    | error e => exact overruns_silent (silent_log _ _ _) (overruns_pure _)
    | ok items =>
      refine overruns_silent (silent_forM (silent_remarkKept _ _) _) ?_
      dsimp only
      split
      · exact overruns_silent (silent_log _ _ _) (overruns_pure _)
      · exact Overruns.bind (m := 1) (n := 0) (overruns_exchange created) fun _ _ => overruns_pure _

theorem overruns_retire : Overruns 2 (retire target) s := by
  rw [retire_eq]
  refine overruns_unless_stopped (overruns_pure _) fun prompt => ensures_revise ?_
  refine Overruns.bind (m := 0) (n := 2) (overruns_findList prompt) fun reply s' => ?_
  rcases reply with e | _ | list
  · exact overruns_silent (silent_log _ _ _) (overruns_pure _)
  · exact overruns_silent (silent_log _ _ _) (overruns_pure _)
  · have deleted : Overruns 1 (deleteList target list.id) s' := by
      refine ensures_call fun reply t later => ?_
      cases reply with
      | ok x | error e =>
        refine ensures_revise (ensures_revise (Program.ensures_pure_iff.mpr ?_))
        exact overrun_nil.call rfl
    refine Overruns.bind (m := 1) (n := 1) deleted fun reply s' => ?_
    cases reply with
    | ok x => exact overruns_silent (silent_log _ _ _) (overruns_pure _)
    | error e =>
      refine overruns_silent (silent_log _ _ _) ?_
      have emptied : Overruns 1 (replaceItems target list.id []) s' :=
        ensures_call fun reply t later =>
          ensures_revise (Program.ensures_pure_iff.mpr (overrun_nil.call rfl))
      refine Overruns.bind (m := 1) (n := 0) emptied fun reply s' => ?_
      cases reply with
      | ok x | error e => exact overruns_silent (silent_log _ _ _) (overruns_pure _)

end Reconcile

end AddressSync
