import AddressSync.Proofs.Directory.ListChanges
import AddressSync.Proofs.Surroundings.Simulated

/-! Whatever is done through the directory, in whatever order and however its calls end, each live
entry of each cache is what the provider would answer at that moment. -/

namespace AddressSync.Directory

open Sync Simulation Scene

inductive Operation
  | zones (name : String)
  | owner (domain : Domain)
  | records (zone : String) (domain : Domain) (family : Family)
  | createRecord (zone : String) (domain : Domain) (family : Family) (address : Address)
      (attributes : Attributes)
  | updateRecord (zone : String) (domain : Domain) (family : Family) (id : String)
      (address : Address)
  | deleteRecord (zone : String) (domain : Domain) (family : Family) (id : String)
  | forgetRecords (zone : String) (domain : Domain) (family : Family)
  | index (account : String)
  | obtainList (target : ListTarget)
  | deleteList (target : ListTarget) (id : String)
  | items (target : ListTarget) (id : String)
  | addItems (target : ListTarget) (id : String) (blocks : List Block)
  | removeItems (target : ListTarget) (id : String) (ids : List String)
  | replaceItems (target : ListTarget) (id : String) (blocks : List Block)
  | flush

namespace Operation

def program : Operation → Sync Unit
  | zones name => discard (Directory.zones name)
  | owner domain => discard (Directory.owner domain)
  | records zone domain family => discard (Directory.records zone domain family)
  | createRecord zone domain family address attributes =>
    discard (Directory.createRecord zone domain family address attributes)
  | updateRecord zone domain family id address =>
    discard (Directory.updateRecord zone domain family id address)
  | deleteRecord zone domain family id => discard (Directory.deleteRecord zone domain family id)
  | forgetRecords zone domain family => Directory.forgetRecords ⟨zone, domain, family⟩
  | index account => discard (Directory.index account)
  | obtainList target => discard (Directory.obtainList target)
  | deleteList target id => discard (Directory.deleteList target id)
  | items target id => discard (Directory.items target id)
  | addItems target id blocks => discard (Directory.addItems target id blocks)
  | removeItems target id ids => discard (Directory.removeItems target id ids)
  | replaceItems target id blocks => discard (Directory.replaceItems target id blocks)
  | flush => Directory.flush

/-- What has to be true of an operation: it names things where they are. -/
def Allowed (p : Provider) : Operation → Prop
  | records _ domain _ => domain.IsParsed
  | createRecord _ domain family address _ => domain.IsParsed ∧ address.family = family
  | updateRecord zone domain family id address =>
    domain.IsParsed ∧ address.family = family ∧ p.RecordWithin id zone domain.print family
  | deleteRecord zone domain family id =>
    domain.IsParsed ∧ p.RecordWithin id zone domain.print family
  | deleteList target id => p.ListWithin id target.account
  | addItems target id _ | replaceItems target id _ => ∃ l ∈ p.listsOf target.account, l.id = id
  | _ => True

end Operation

/-- A history of operations and of time that passes, up to a scene. -/
inductive History (start : Scene) : Scene → Prop
  | start : History start start
  | operate {s s' : Scene} {es : List Moment} {result : Unit} (op : Operation)
    (before : History start s) (allowed : op.Allowed s.provider)
    (run : Sync.Runs op.program s es result s') : History start s'
  | wait {s : Scene} {t : Nat} (before : History start s) (later : s.now ≤ t) :
    History start { s with now := t }

variable {s s' : Scene} {es : List Moment}

theorem ensures_discard {α : Type} {p : Sync α} {P : Scene → Prop}
    (h : Sync.Ensures p s fun _ _ s' => P s') : Sync.Ensures (discard p) s fun _ _ s' => P s' :=
  h.bind fun _ _ _ done => Program.ensures_pure_iff.mpr done

theorem ensures_replaceItems (h : s.Faithful) {target : ListTarget} {id : String}
    {blocks : List Block} (there : ∃ l ∈ s.provider.listsOf target.account, l.id = id) :
    Sync.Ensures (replaceItems target id blocks) s fun _ _ s' => s'.Faithful := by
  have admitted : s.provider.Admits (.replaceItems target.account id blocks) := there
  refine ensures_call_iff.mpr fun t reply p later ends => ?_
  refine ensures_revise_iff.mpr fun t' later' => Program.ensures_pure_iff.mpr ?_
  have after := Nat.le_trans later later'
  exact ⟨h.sound.ends admitted ends,
    h.coherent.forget_items after Provider.changesItems_replace ends rfl⟩

theorem ensures_forgetRecords (h : s.Faithful) (key : RecordsKey) :
    Sync.Ensures (Directory.forgetRecords key) s fun _ _ s' => s'.Faithful := by
  rw [← bind_pure (Directory.forgetRecords key)]
  refine ensures_revise_iff.mpr fun t later => Program.ensures_pure_iff.mpr ⟨h.sound, ?_⟩
  have passed := h.coherent.pass later
  exact { passed with records := passed.records.erase fun _ _ _ said => said }

theorem ensures_flush (h : s.Faithful) :
    Sync.Ensures Directory.flush s fun _ _ s' => s'.Faithful := by
  rw [← bind_pure Directory.flush]
  refine ensures_revise_iff.mpr fun t later => Program.ensures_pure_iff.mpr ⟨h.sound, ?_⟩
  exact coherentOn_flush

theorem ensures_faithful (h : s.Faithful) (op : Operation) (allowed : op.Allowed s.provider) :
    Sync.Ensures op.program s fun _ _ s' => s'.Faithful := by
  cases op with
  | zones name =>
    have zones := ensures_zones (s := s) name
      fun t zones later found => (h.coherent.zones.later later).get? found
    exact ensures_discard (zones.mono fun _ _ _ result =>
      h.quiet result.quiet (result.coherentOn h.coherent))
  | owner domain =>
    have owned := ensures_owner (h.coherent.toZonesCoherent.zonesTrue domain)
    exact ensures_discard (owned.mono fun _ _ _ result =>
      h.quiet result.quiet (result.coherentOn h.coherent))
  | records zone domain family =>
    exact ensures_discard
      ((ensures_records h.coherent allowed).mono fun _ _ _ reads => h.reads reads)
  | createRecord zone domain family address attributes =>
    obtain ⟨parsed, ofFamily⟩ := allowed
    refine ensures_discard ((ensures_change s).mono fun _ _ _ changed => ?_)
    refine h.change_records parsed ?_ (Provider.changesRecords_create ofFamily) changed
    exact trivial
  | updateRecord zone domain family id address =>
    obtain ⟨parsed, ofFamily, within⟩ := allowed
    have work := Provider.changesRecords_update h.sound.records_distinct ofFamily within
    refine ensures_discard ((ensures_change s).mono fun _ _ _ changed => ?_)
    refine h.change_records parsed ?_ work changed
    exact trivial
  | deleteRecord zone domain family id =>
    obtain ⟨parsed, within⟩ := allowed
    have work := Provider.changesRecords_delete within
    refine ensures_discard ((ensures_change s).mono fun _ _ _ changed => ?_)
    refine h.change_records parsed ?_ work changed
    exact trivial
  | forgetRecords zone domain family => exact ensures_forgetRecords h ⟨zone, domain, family⟩
  | index account =>
    exact ensures_discard ((ensures_index h.coherent account).mono fun _ _ _ reads => h.reads reads)
  | obtainList target => exact ensures_discard (ensures_obtainList h target)
  | deleteList target id => exact ensures_discard (ensures_deleteList h allowed)
  | items target id =>
    exact ensures_discard
      ((ensures_items h.coherent target id).mono fun _ _ _ reads => h.reads reads)
  | addItems target id blocks =>
    refine ensures_discard ((ensures_change s).mono fun _ _ _ changed => ?_)
    refine h.change_items ?_ Provider.changesItems_create changed
    exact allowed
  | removeItems target id ids =>
    refine ensures_discard ((ensures_change s).mono fun _ _ _ changed => ?_)
    refine h.change_items ?_ Provider.changesItems_delete changed
    exact trivial
  | replaceItems target id blocks => exact ensures_discard (ensures_replaceItems h allowed)
  | flush => exact ensures_flush h

theorem History.faithful {now lifetime : Nat} {p : Provider} (sound : p.Sound)
    (history : History ⟨now, p, .empty lifetime⟩ s) : s.Faithful := by
  induction history with
  | start => exact ⟨sound, coherentOn_empty⟩
  | operate op before allowed run faithful => exact ensures_faithful faithful op allowed _ _ _ run
  | wait before later faithful => exact ⟨faithful.sound, faithful.coherent.pass later⟩

/-- After every history from empty caches, each live entry of each cache is what the provider would
answer at that moment. -/
theorem coherent_of_history {now lifetime : Nat} {p : Provider} (sound : p.Sound)
    (history : History ⟨now, p, .empty lifetime⟩ s) : s.Coherent :=
  (history.faithful sound).coherent.coherent

def unopened : World where
  provider.zones := [⟨"z", "example.com", .active⟩]
  faults := [⟨.deleteRecord, none, some 1, .http "timeout", true⟩]
  caches := .empty 60000

def trials : List Operation :=
  let domain : Domain := .plain "www.example.com"
  [.records "z" domain .v4, .createRecord "z" domain .v4 (.v4 1) {},
    .deleteRecord "z" domain .v4 "rec-1", .records "z" domain .v4]

def Operation.after (w : World) (ops : List Operation) : World :=
  ops.foldl (fun w op => (w.run op.program).2) w

theorem coherent_of_history_trials : unopened.provider.Sound ∧
    History unopened.scene (Operation.after unopened trials).scene ∧
      (Operation.after unopened trials).scene.Coherent ∧
        (Operation.after unopened trials).caches.records.entries.map (·.value) = [[]] := by
  have sound : unopened.provider.Sound := Provider.sound_of_zones _ _
  have parsed : (Domain.plain "www.example.com").IsParsed := ⟨"www.example.com", by rfl⟩
  have step (n : Nat) (op : Operation) (before : History unopened.scene
      (Operation.after unopened (trials.take n)).scene)
      (quiet : (Operation.after unopened (trials.take n)).Undisturbed)
      (allowed : op.Allowed (Operation.after unopened (trials.take n)).provider) :
      History unopened.scene ((Operation.after unopened (trials.take n)).run op.program).2.scene := by
    obtain ⟨es, run⟩ := World.runs_run op.program quiet
    exact .operate op before allowed run
  have history : History unopened.scene (Operation.after unopened trials).scene := by
    have first := step 0 (.records "z" (.plain "www.example.com") .v4) .start rfl parsed
    have second := step 1 (.createRecord "z" (.plain "www.example.com") .v4 (.v4 1) {}) first rfl
      ⟨parsed, rfl⟩
    have third := step 2 (.deleteRecord "z" (.plain "www.example.com") .v4 "rec-1") second rfl
      ⟨parsed, by decide⟩
    exact step 3 (.records "z" (.plain "www.example.com") .v4) third rfl parsed
  exact ⟨sound, history, coherent_of_history sound history, by decide⟩

end AddressSync.Directory
