import AddressSync.Proofs.Reconcile.Tidiness
import AddressSync.Proofs.Surroundings.Staged

/-! Caches make no difference to what work does. On two stages that are alike but for their caches,
both true, each piece of work asks for the same changes and ends in the same way: what it reads is
what the provider holds, and once it has read that, it looks at no caches. -/

namespace AddressSync

open Sync Simulation Directory Reconcile Scene

namespace Simulation.Stage

variable {α β : Type} {course : Course} {s s' : Stage} {p : Sync α}

structure Agree (course : Course) (p : Sync α) (s s' : Stage) : Prop where
  result : (s.run course p).1 = (s'.run course p).1
  alike : (s.run course p).2.Alike (s'.run course p).2

theorem Agree.bind {f : α → Sync β} (first : Agree course p s s')
    (rest : Agree course (f (s.run course p).1) (s.run course p).2 (s'.run course p).2) :
    Agree course (p >>= f) s s' := by
  obtain ⟨result, alike⟩ := rest
  rw [first.result] at result alike
  refine ⟨?_, ?_⟩
  · rw [run_bind, run_bind, first.result]
    exact result
  · rw [run_bind, run_bind, first.result]
    exact alike

theorem Agree.bind_ensured {f : α → Sync β} {P : Scene → Prop} (first : Agree course p s s')
    (ensured : Sync.Ensures p s.scene fun _ _ t => P t)
    (ensured' : Sync.Ensures p s'.scene fun _ _ t => P t)
    (rest : ∀ a t t', t.Alike t' → P t.scene → P t'.scene → Agree course (f a) t t') :
    Agree course (p >>= f) s s' :=
  first.bind (rest _ _ _ first.alike (run_ensures course ensured) (run_ensures course ensured'))

theorem agree_of_blind (blind : OnlyAsks (· ≠ .look) p) (alike : s.Alike s') :
    Agree course p s s' := by
  -- A request that is not a look at the caches is answered alike on both stages, and leaves them so.
  induction p generalizing s s' with
  | done a => exact ⟨rfl, alike⟩
  | ask r next ih =>
    obtain ⟨same, after⟩ := answer_alike course alike blind.1
    have rest := ih (answer course r s).1 (blind.2 _) after
    have run_ask (t : Stage) : t.run course (.ask r next) =
        (answer course r t).2.run course (next (answer course r t).1) := rfl
    refine ⟨?_, ?_⟩
    · rw [run_ask, run_ask, ← same]
      exact rest.result
    · rw [run_ask, run_ask, ← same]
      exact rest.alike

/-- A read whose reply is the true one, unless a call failed, does the same on stages that are
alike: no call of it fails. -/
theorem agree_of_reads {P : Scene → Prop} (value : α) (alike : s.Alike s') (h : P s.scene)
    (h' : P s'.scene) (reads : ∀ t : Scene, t.provider = s.provider → P t →
      Sync.Ensures p t fun es found t' =>
        t.Quiet es t' ∧ (found = value ∨ ∃ m ∈ es, m.Fails)) :
    Agree course p s s' := by
  -- On a stage no call that only reads fails, so that either run finds the value.
  have finds (t : Stage) (provider : t.provider = s.provider) (start : P t.scene) :
      (t.run course p).1 = value ∧ t.Alike (t.run course p).2 := by
    obtain ⟨quiet, found⟩ := run_ensures course (reads t.scene provider start)
    obtain ⟨same, unfailed⟩ := run_of_reads fun m mem => (quiet.moments m mem).1
    refine ⟨found.resolve_right ?_, same⟩
    rintro ⟨m, mem, fails⟩
    exact unfailed m mem fails
  obtain ⟨found, same⟩ := finds s rfl h
  obtain ⟨found', same'⟩ := finds s' alike.provider h'
  exact ⟨found.trans found'.symm, same.symm.trans (alike.trans same')⟩

variable {domain : Domain} {family : Family} {target : ListTarget}

theorem agree_unless_stopped {rest : Sync β} (stopped : β) (alike : s.Alike s')
    (later : Agree course rest s s') :
    Agree course (stopRequested >>= fun stop => if stop then pure stopped else rest) s s' := by
  refine (agree_of_blind (onlyAsks_stopRequested usual_ne_look) alike).bind ?_
  dsimp only [Stage.run]
  split
  · exact agree_of_blind (onlyAsks_pure stopped) alike
  · exact later

theorem agree_log_guard {c : Prop} [Decidable c] {level : Log.Level} {message : String}
    {fields : List (String × Log.Field)} {f : Unit → Sync β} (rest : Agree course (f ()) s s') :
    Agree course (if c then log level message fields >>= f else f ()) s s' := by
  split
  · exact ⟨rest.result, rest.alike⟩
  · exact rest

theorem agree_locate (course : Course) (alike : s.Alike s') (h : s.scene.Orderly)
    (h' : s'.scene.Orderly) (parsed : domain.IsParsed) (family : Family) (fresh : Bool) :
    Agree course (locate domain family fresh) s s' := by
  refine agree_of_reads (s.provider.located domain family) alike h h'
    fun t provider orderly => ?_
  rw [← provider]
  exact (ensures_locate_orderly orderly parsed family fresh).mono
    fun es found t' ⟨quiet, _, located⟩ => ⟨quiet, located.imp_right And.right⟩

theorem agree_of_lists {ν : Type} {p : Sync (Except Failure ν)} (value : ν) (alike : s.Alike s')
    (h : s.scene.Orderly) (h' : s'.scene.Orderly)
    (reads : ∀ t : Scene, t.provider = s.provider → t.Orderly →
      Sync.Ensures p t (t.Reads (fun key => key.domain.IsParsed) (· = value))) :
    Agree course p s s' := by
  refine agree_of_reads (.ok value) alike h h' fun t provider orderly => ?_
  refine (reads t provider orderly).mono fun es reply t' read => ⟨read.quiet, ?_⟩
  cases reply with
  | ok found => exact .inl (congrArg Except.ok (read.true_of_ok found rfl))
  | error e => exact .inr (read.failed e rfl)

theorem agree_findList (course : Course) (alike : s.Alike s') (h : s.scene.Orderly)
    (h' : s'.scene.Orderly) (target : ListTarget) : Agree course (findList target) s s' := by
  refine agree_of_lists (s.provider.named? target) alike h h' fun t provider orderly => ?_
  rw [← provider]
  exact ensures_findList orderly.coherent target

theorem agree_items (course : Course) (alike : s.Alike s') (h : s.scene.Orderly)
    (h' : s'.scene.Orderly) (target : ListTarget) (id : String) :
    Agree course (items target id) s s' := by
  refine agree_of_lists (s.provider.itemsOf id) alike h h' fun t provider orderly => ?_
  rw [← provider]
  exact ensures_items orderly.coherent target id

theorem agree_obtainList (course : Course) (alike : s.Alike s') (h : s.scene.Orderly)
    (h' : s'.scene.Orderly) (target : ListTarget) :
    Agree course (obtainList target) s s' := by
  have first := agree_findList course alike h h' target
  rw [obtainList_eq]
  exact first.bind (agree_of_blind (onlyAsks_obtainFrom usual_ne_look nofun _) first.alike)

theorem agree_publish (alike : s.Alike s') (h : s.scene.Orderly) (h' : s'.scene.Orderly)
    (parsed : domain.IsParsed) (family : Family) (address : Address) (attributes : Attributes) :
    Agree course (publish domain family address attributes) s s' := by
  unfold publish
  dsimp only
  split
  · refine agree_of_blind ?_ alike
    exact onlyAsks_log_pure usual_ne_look _
  refine agree_unless_stopped _ alike ?_
  have first := agree_locate course alike h h' parsed family false
  refine first.bind (agree_of_blind ?_ first.alike)
  split
  · exact onlyAsks_pure _
  · refine OnlyAsks.bind ?_ fun _ => onlyAsks_pure _
    exact onlyAsks_converge usual_ne_look nofun (fun _ => nofun) (fun _ => nofun) _

theorem agree_withdraw (alike : s.Alike s') (h : s.scene.Orderly) (h' : s'.scene.Orderly)
    (parsed : domain.IsParsed) (family : Family) (last : Bool) :
    Agree course (withdraw domain family last) s s' := by
  refine agree_unless_stopped _ alike ?_
  have first := agree_locate course alike h h' parsed family last
  refine first.bind (agree_of_blind ?_ first.alike)
  split
  · exact onlyAsks_pure _
  · exact onlyAsks_log_pure usual_ne_look _
  · exact (onlyAsks_removeEach usual_ne_look (fun _ => nofun) _).bind fun _ => onlyAsks_pure _

theorem agree_populate (alike : s.Alike s') (h : s.scene.Orderly) (h' : s'.scene.Orderly)
    (target : ListTarget) (sightings : Sightings) :
    Agree course (populate target sightings) s s' := by
  refine agree_unless_stopped _ alike ?_
  -- The list may be made first: what the read of its items counts on is shown anew.
  have obtained (t : Scene) (orderly : t.Orderly) :
      Sync.Ensures (obtainList target) t fun _ _ t' => t'.Orderly :=
    (ensures_obtained orderly.coherent target).mono fun _ _ _ obtained => obtained.orderly orderly
  refine (agree_obtainList course alike h h' target).bind_ensured (obtained _ h) (obtained _ h')
    fun reply t t' alike orderly orderly' => ?_
  cases reply with
  | error e =>
    refine agree_of_blind ?_ alike
    exact onlyAsks_log_pure usual_ne_look _
  | ok found =>
    obtain ⟨l, created⟩ := found
    refine agree_log_guard ?_
    have listed := agree_items course alike orderly orderly' target l.id
    refine listed.bind (agree_of_blind ?_ listed.alike)
    split
    · exact onlyAsks_log_pure usual_ne_look _
    · refine ((silent_forM (silent_remarkKept _ _) _).onlyAsks usual_ne_look).bind fun _ => ?_
      dsimp only
      split
      · exact onlyAsks_log_pure usual_ne_look _
      · exact (onlyAsks_exchange usual_ne_look nofun nofun created).bind fun _ => onlyAsks_pure _

theorem agree_retire (alike : s.Alike s') (h : s.scene.Tidy) (h' : s'.scene.Tidy)
    (target : ListTarget) : Agree course (retire target) s s' := by
  rw [retire_eq]
  refine agree_unless_stopped _ alike ?_
  have forgotten (t : Scene) (tidy : t.Tidy) :
      Sync.Ensures (forgetIndex target.account) t fun _ _ t' => t'.Orderly :=
    (ensures_forgetIndex tidy.faithful target.account).mono fun _ _ _ done => done.2.orderly
  have blind : OnlyAsks (· ≠ .look) (forgetIndex target.account) :=
    onlyAsks_revise usual_ne_look stamping_dropIndex
  refine (agree_of_blind blind alike).bind_ensured (forgotten _ h) (forgotten _ h')
    fun _ t t' alike orderly orderly' => ?_
  have found := agree_findList course alike orderly orderly' target
  refine found.bind (agree_of_blind ?_ found.alike)
  exact onlyAsks_retireFrom usual_ne_look (fun _ => nofun) (fun _ => nofun) _

end Simulation.Stage

namespace Reconcile

inductive Task
  | publish (domain : Domain) (family : Family) (address : Address) (attributes : Attributes)
  | withdraw (domain : Domain) (family : Family) (last : Bool)
  | populate (target : ListTarget) (sightings : Sightings)
  | retire (target : ListTarget)

namespace Task

def program : Task → Sync Report
  | publish domain family address attributes => Reconcile.publish domain family address attributes
  | withdraw domain family last => Reconcile.withdraw domain family last
  | populate target sightings => Reconcile.populate target sightings
  | retire target => Reconcile.retire target

def IsParsed : Task → Prop
  | publish domain .. | withdraw domain .. => domain.IsParsed
  | populate .. | retire _ => True

theorem ensures_tidy {task : Task} {s : Scene} (parsed : task.IsParsed) (h : s.Tidy) :
    Sync.Ensures task.program s fun _ _ s' => s'.Tidy := by
  cases task with
  | publish domain family address attributes =>
    exact ensures_publish_tidy h parsed family address attributes
  | withdraw domain family last => exact ensures_withdraw_tidy h parsed family last
  | populate target sightings => exact ensures_populate_tidy h target sightings
  | retire target => exact ensures_retire_tidy h target

theorem agree (course : Course) {task : Task} {s s' : Stage} (parsed : task.IsParsed)
    (alike : s.Alike s') (h : s.scene.Tidy) (h' : s'.scene.Tidy) :
    Stage.Agree course task.program s s' := by
  cases task with
  | publish domain family address attributes =>
    exact Stage.agree_publish alike h.toOrderly h'.toOrderly parsed family address attributes
  | withdraw domain family last =>
    exact Stage.agree_withdraw alike h.toOrderly h'.toOrderly parsed family last
  | populate target sightings =>
    exact Stage.agree_populate alike h.toOrderly h'.toOrderly target sightings
  | retire target => exact Stage.agree_retire alike h h' target

end Task

inductive Step
  /-- Work that is asked to stop by how many changes were asked for before it and in it. -/
  | work (task : Task) (stops : Nat → Nat → Bool)
  | wait (delay : Nat)

def Step.IsParsed : Step → Prop
  | work task _ => task.IsParsed
  | wait _ => True

variable (mishap? : Nat → List Call → Option Mishap)

def play : List Step → Stage → List Report × Stage
  | [], s => ([], s)
  | .wait delay :: rest, s => play rest { s with now := s.now + delay }
  | .work task stops :: rest, s =>
    let before := s.changes.length
    let (report, s) := s.run ⟨mishap?, fun total => stops before (total - before)⟩ task.program
    let (reports, s) := play rest s
    (report :: reports, s)

variable {steps : List Step} {s s' : Stage}

theorem play_alike (parsed : ∀ step ∈ steps, step.IsParsed) (alike : s.Alike s')
    (h : s.scene.Tidy) (h' : s'.scene.Tidy) :
    (play mishap? steps s).1 = (play mishap? steps s').1 ∧
      (play mishap? steps s).2.Alike (play mishap? steps s').2 := by
  -- What one step hands on to the next is that both scenes are tidy.
  induction steps generalizing s s' with
  | nil => exact ⟨rfl, alike⟩
  | cons step rest ih =>
    obtain ⟨here, later⟩ := List.forall_mem_cons.mp parsed
    cases step with
    | wait delay =>
      have passed (t : Stage) (tidy : t.scene.Tidy) :
          ({ t with now := t.now + delay } : Stage).scene.Tidy :=
        ⟨⟨tidy.numbered, tidy.coherent.pass (Nat.le_add_right ..)⟩, tidy.apart⟩
      refine ih later ⟨?_, alike.provider, alike.changes⟩ (passed s h) (passed s' h')
      exact congrArg (· + delay) alike.now
    | work task stops =>
      let course : Course :=
        ⟨mishap?, fun total => stops s.changes.length (total - s.changes.length)⟩
      have done := task.agree course here alike h h'
      have after := Stage.run_ensures course (Task.ensures_tidy here h)
      have after' := Stage.run_ensures course (Task.ensures_tidy here h')
      obtain ⟨reports, last⟩ := ih later done.alike after after'
      unfold play
      dsimp only
      rw [alike.changes]
      exact ⟨congr (congrArg List.cons done.result) reports, last⟩

/-- A sequence of works leaves the same reports, asks for the same changes and ends with the same
provider whatever the lifetime of what is cached, and so as where nothing is cached. -/
theorem play_uncached {p : Provider} (numbered : p.Numbered) (apart : p.ListsApart)
    (parsed : ∀ step ∈ steps, step.IsParsed) (now lifetime : Nat) :
    (play mishap? steps ⟨now, p, .empty lifetime, []⟩).1 =
        (play mishap? steps ⟨now, p, .empty 0, []⟩).1 ∧
      (play mishap? steps ⟨now, p, .empty lifetime, []⟩).2.changes =
        (play mishap? steps ⟨now, p, .empty 0, []⟩).2.changes ∧
      (play mishap? steps ⟨now, p, .empty lifetime, []⟩).2.provider =
        (play mishap? steps ⟨now, p, .empty 0, []⟩).2.provider := by
  have tidy (lifetime : Nat) : (⟨now, p, .empty lifetime, []⟩ : Stage).scene.Tidy :=
    ⟨⟨numbered, coherentOn_empty⟩, apart⟩
  have start : (⟨now, p, .empty lifetime, []⟩ : Stage).Alike ⟨now, p, .empty 0, []⟩ :=
    ⟨rfl, rfl, rfl⟩
  obtain ⟨reports, alike⟩ := play_alike mishap? parsed start (tidy lifetime) (tidy 0)
  exact ⟨reports, alike.changes.symm, alike.provider.symm⟩

def office : Provider := { stocked with zones := [⟨"z", "example.com", .active⟩] }

def unheard (_ : Nat) (changes : List Call) : Option Mishap :=
  if changes.length = 2 then some ⟨.http "timed out", true⟩ else none

def errands : List Step :=
  let www : Domain := .plain "www.example.com"
  let moved : Sightings := { glimpse with v4 := .seen (.v4 3) }
  [.work (.publish www .v4 (.v4 1) {}) fun _ _ => false,
    .work (.publish www .v4 (.v4 3) {}) fun _ _ => false,
    .wait 10,
    .work (.publish www .v4 (.v4 3) {}) fun _ _ => false,
    .work (.populate stock moved) fun _ since => since = 1,
    .work (.populate stock moved) fun _ _ => false,
    .wait 60000,
    .work (.withdraw www .v4 true) fun _ _ => false,
    .work (.retire stock) fun _ _ => false]

theorem play_uncached_errands :
    let (reports, s) := play unheard errands ⟨0, office, .empty 60000, []⟩
    let (reports', s') := play unheard errands ⟨0, office, .empty 0, []⟩
    reports.map Report.outcome =
        [.updated, .failed, .unchanged, .updated, .updated, .updated, .updated] ∧
      reports.map Report.stopped = [false, false, false, true, false, false, false] ∧
        s.changes.length = 8 ∧ s.provider.records = [] ∧ s.provider.lists = [] ∧
          reports = reports' ∧ s.changes = s'.changes ∧ s.provider = s'.provider := by
  have zoned := (Provider.sound_of_zones [⟨"z", "example.com", .active⟩] 0).toNumbered
  have listed := zoned.perform (c := .createList "acct" "hosts" "") trivial
  have numbered : office.Numbered :=
    listed.perform (c := .createItems "acct" "list-1" [(Address.v4 1).listedBlock,
      (Address.v4 2).listedBlock, (Address.v6 1).listedBlock] "")
      ⟨⟨"list-1", "hosts", "", "ip"⟩, by decide, rfl⟩
  have apart : office.ListsApart := by
    have none : ({ zones := [⟨"z", "example.com", .active⟩] } : Provider).ListsApart :=
      ⟨fun _ => List.nodup_nil, List.nodup_nil⟩
    have one : (Provider.perform { zones := [⟨"z", "example.com", .active⟩] }
        (.createList "acct" "hosts" "")).2.ListsApart := none.createList zoned rfl
    exact one.of_lists rfl
  have parsed : ∀ step ∈ errands, step.IsParsed := by
    have www : (Domain.plain "www.example.com").IsParsed := ⟨"www.example.com", by rfl⟩
    simp [errands, Step.IsParsed, Task.IsParsed, www]
  obtain ⟨reports, changes, provider⟩ := play_uncached unheard numbered apart parsed 0 60000
  exact ⟨by rfl, by rfl, by rfl, by rfl, by rfl, reports, changes, provider⟩

end Reconcile

end AddressSync
