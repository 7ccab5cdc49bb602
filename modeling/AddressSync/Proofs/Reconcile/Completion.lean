import AddressSync.Proofs.Reconcile.Convergence
import AddressSync.Proofs.Reconcile.Requests
import AddressSync.Proofs.Reconcile.Sequence

/-! Work in whose way nothing comes is done. When each call gets the reply that the provider itself
gives, and nobody asks to stop, bringing the records of a place to a target ends with the target, and
where the place is at its target already, nothing is called. -/

namespace AddressSync

open Sync Simulation Directory Scene

namespace Moment

/-- Nothing comes between at the moment: a call gets the provider's own reply, and nobody asks to
stop. -/
def IsSmooth : Moment → Prop
  | .called c reply before after => reply = (before.perform c).1 ∧ after = (before.perform c).2
  | .stopAsked answer => answer = false
  | .detected .. | .told .. => True

theorem not_fails_of_smooth {m : Moment} (smooth : m.IsSmooth) (reads : ¬ m.Mutates) :
    ¬ m.Fails := by
  cases m with
  | called c reply before after =>
    obtain ⟨rfl, _⟩ := smooth
    cases c with
    | listZones | listRecords | listLists | listItems => exact nofun
    | _ => exact absurd rfl reads
  | detected | stopAsked | told => exact not_false

end Moment

def Untroubled (es : List Moment) : Prop := ∀ m ∈ es, m.IsSmooth

section

variable {es es' : List Moment} {s s' : Scene}

@[simp] theorem untroubled_nil : Untroubled [] := fun _ mem => absurd mem List.not_mem_nil

@[simp] theorem untroubled_cons {m : Moment} :
    Untroubled (m :: es) ↔ m.IsSmooth ∧ Untroubled es :=
  List.forall_mem_cons

@[simp] theorem untroubled_append : Untroubled (es ++ es') ↔ Untroubled es ∧ Untroubled es' :=
  List.forall_mem_append

theorem Scene.Quiet.unfailed (quiet : s.Quiet es s') (smooth : Untroubled es) :
    ¬ ∃ m ∈ es, m.Fails := by
  rintro ⟨m, mem, fails⟩
  exact Moment.not_fails_of_smooth (smooth m mem) (quiet.moments m mem).1 fails

end

namespace Simulation.Provider

variable {p : Provider} {id zone name : String} {domain : Domain} {family : Family}
  {address : Address} {record : Record}

theorem perform_deleteRecord_of_mem (mem : record ∈ p.recordsOf zone name family) :
    (p.perform (.deleteRecord zone record.id)).1 = .ok () := by
  have found : p.records.any (·.record.id = record.id) :=
    List.any_eq_true.mpr ⟨_, (mem_recordsOf.mp mem).1, decide_eq_true rfl⟩
  rw [perform, if_pos found]

theorem isSome_readdressFirst {r : PlacedRecord} {rs : List PlacedRecord} (mem : r ∈ rs) :
    (readdressFirst r.record.id address rs).isSome := by
  induction rs with
  | nil => cases mem
  | cons first rest ih =>
    rw [readdressFirst]
    split
    · rfl
    · next other =>
      rcases List.mem_cons.mp mem with rfl | mem
      · exact absurd rfl other
      · rw [Option.isSome_map]
        exact ih mem

theorem perform_updateRecord_of_mem (mem : record ∈ p.recordsOf zone name family) :
    (p.perform (.updateRecord zone domain family record.id address)).1 = .ok () := by
  have found : (readdressFirst record.id address p.records).isSome :=
    isSome_readdressFirst (mem_recordsOf.mp mem).1
  rw [perform]
  split
  · rfl
  · next missing =>
    rw [missing] at found
    cases found

end Simulation.Provider

namespace Reconcile

variable {t : Target} {kept : String} {kept? : Option String} {progress : Progress}
  {rest records : List Record} {record : Record} {s s' : Scene} {es : List Moment}

theorem Settled.done (settled : Settled t s (t.held s.provider) es kept? progress s')
    (smooth : Untroubled es) :
    kept?.isSome ∧ progress.failed = false ∧ ∀ m ∈ es, ¬ m.Fails := by
  generalize start : t.held s.provider = records at settled
  have updates {stale : Record} {e : Failure} {p : Provider} (rest : List Record)
      (held : t.held s.provider = stale :: rest)
      (refused : (Moment.called (t.update stale.id) (.error e) s.provider p).IsSmooth) : False := by
    have mem : stale ∈ t.held s.provider := by
      rw [held]
      exact List.mem_cons_self
    exact nomatch refused.1.trans (Provider.perform_updateRecord_of_mem mem)
  cases settled with
  | found => exact ⟨rfl, rfl, fun m mem => absurd mem List.not_mem_nil⟩
  | repointed | created => exact ⟨rfl, rfl, List.forall_mem_singleton.mpr nofun⟩
  | replaced stale rest e p r _ absent refused ends =>
    exact (updates rest start (untroubled_cons.mp smooth).1).elim
  | refused stale rest e e' p _ progress absent refused ends =>
    exact (updates rest start (untroubled_cons.mp smooth).1).elim
  | uncreated e _ progress ends => exact nomatch (untroubled_cons.mp smooth).1.1

theorem ensures_removeRest_done (h : Narrowed t kept progress rest s.provider) :
    Sync.Ensures (removeRest t progress rest) s fun es result _ =>
      progress.failed = false → Untroubled es →
        ((result.1 = .updated ∨ result.1 = .unchanged) ∧ result.2 = false) ∧ ∀ m ∈ es, ¬ m.Fails := by
  induction rest generalizing progress s with
  | nil =>
    refine Program.ensures_pure_iff.mpr fun clean _ =>
      ⟨⟨?_, rfl⟩, fun m mem => absurd mem List.not_mem_nil⟩
    rw [Progress.outcome, clean, if_neg Bool.false_ne_true]
    split
    · exact .inl rfl
    · exact .inr rfl
  | cons record rest ih =>
    refine ensures_stopRequested_iff.mpr fun stop => ?_
    cases stop with
    | true =>
      refine ensures_log_iff.mpr (Program.ensures_pure_iff.mpr fun _ smooth => ?_)
      cases (untroubled_cons.mp smooth).1
    | false =>
      refine (ensures_change s).bind fun es reply s' change => ?_
      cases reply with
      | ok x =>
        refine ensures_log_iff.mpr ((ih (h.deleted change.ends)).mono ?_)
        intro es' result s'' rest clean smooth
        obtain ⟨done, unfailed⟩ := rest clean (untroubled_append.mp (untroubled_cons.mp smooth).2).2
        refine ⟨done, List.forall_mem_cons.mpr ⟨not_false, List.forall_mem_append.mpr ⟨?_, unfailed⟩⟩⟩
        rw [change.moments]
        exact List.forall_mem_singleton.mpr fun fails => Bool.false_ne_true fails.symm
      | error e =>
        intro es' result s'' _ clean smooth
        have mem : record ∈ t.held s.provider := by
          have listed : record ∈ (t.held s.provider).filter (·.id ≠ kept) := by
            rw [h.left clean]
            exact List.mem_cons_self
          exact (List.mem_filter.mp listed).1
        have deleted := (untroubled_append.mp (untroubled_cons.mp smooth).2).1
        rw [change.moments] at deleted
        cases (untroubled_cons.mp deleted).1.1.trans (Provider.perform_deleteRecord_of_mem mem)

theorem ensures_converge_done (ofFamily : t.address.family = t.family)
    (distinct : s.provider.RecordsDistinct) :
    Sync.Ensures (converge t (t.held s.provider)) s fun es result _ =>
      Untroubled es → ((result.1 = .updated ∨ result.1 = .unchanged) ∧ result.2 = false) ∧ ∀ m ∈ es, ¬ m.Fails := by
  refine (ensures_settle t (t.held s.provider) s).bind ?_
  rintro es ⟨kept?, progress⟩ s' settled
  cases kept? with
  | none =>
    refine Program.ensures_pure_iff.mpr fun smooth => ?_
    rw [List.append_nil] at smooth
    exact nomatch (settled.done smooth).1
  | some kept =>
    refine (ensures_removeRest_done (settled.narrowed ofFamily distinct)).bind ?_
    rintro es' ⟨outcome, stopped⟩ s'' done
    refine Silent.ensures_guard (silent_log _ _ _) (Program.ensures_pure_iff.mpr fun smooth => ?_)
    rw [List.append_nil] at smooth ⊢
    obtain ⟨before, after⟩ := untroubled_append.mp smooth
    obtain ⟨_, clean, unfailed⟩ := settled.done before
    obtain ⟨ended, unfailed'⟩ := done clean after
    exact ⟨ended, List.forall_mem_append.mpr ⟨unfailed, unfailed'⟩⟩

theorem ensures_converge_settled (address : record.address = t.address) (s : Scene) :
    Sync.Ensures (converge t [record]) s fun es result _ => es = [] ∧ result = (.unchanged, false) := by
  have first : [record].find? (·.address = t.address) = some record := by
    rw [List.find?_singleton, if_pos (decide_eq_true address)]
  have others : [record].filter (·.id ≠ record.id) = [] := by simp
  unfold converge settle keepOne
  rw [first]
  refine Program.ensures_bind_iff.mpr (Program.ensures_pure_iff.mpr ?_)
  dsimp only
  rw [others]
  exact ensures_log_iff.mpr (Program.ensures_pure_iff.mpr ⟨rfl, rfl⟩)

/-- A run that found what the provider holds at the place, and went on from there. -/
inductive Reached (t : Target) (s : Scene) : List Moment → Report → Scene → Prop
  | intro (es es' : List Moment) (outcome : Outcome) (stopped : Bool) (s₁ s' : Scene)
    (found : Sync.Runs (locate t.domain t.family false) s es (some (t.zone, t.held s.provider)) s₁)
    (quiet : s.Quiet es s₁)
    (run : Sync.Runs (converge t (t.held s₁.provider)) s₁ es' (outcome, stopped) s') :
    Reached t s (.stopAsked false :: (es ++ es'))
      ⟨.records t.domain.print t.family, outcome, stopped⟩ s'

theorem ensures_publish_reached (h : s.ZonesTrue t.domain) (said : s.RecordsTrue t.key)
    (ofFamily : t.address.family = t.family) (owned : s.provider.ownerOf t.domain = .ok t.zone) :
    Sync.Ensures (publish t.domain t.family t.address t.attributes) s fun es report s' =>
      Untroubled es → Reached t s es report s' := by
  have located : s.provider.located t.domain t.family = some (t.zone, t.held s.provider) := by
    rw [Provider.located, owned]
    rfl
  have locates := ensures_locate h t.family false fun _ zone owner => by
    obtain rfl : t.zone = zone := Except.ok.inj (owned.symm.trans owner)
    exact said
  unfold publish
  dsimp only
  rw [if_neg (not_not.mpr ofFamily)]
  refine ensures_stopRequested_iff.mpr fun stop => ?_
  cases stop with
  | true =>
    refine Program.ensures_pure_iff.mpr fun smooth => ?_
    cases (untroubled_cons.mp smooth).1
  | false =>
    refine Program.Ensures.bind Program.ensures_runs fun es found s₁ run => ?_
    obtain ⟨quiet, _, live⟩ := locates es found s₁ run
    rw [located] at live
    rcases live with rfl | ⟨rfl, failed⟩
    · have held : t.held s.provider = t.held s₁.provider := by rw [quiet.provider]
      refine Program.Ensures.bind Program.ensures_runs fun es' result s' converges => ?_
      refine Program.ensures_pure_iff.mpr fun _ => ?_
      rw [List.append_nil]
      refine .intro es es' result.1 result.2 s₁ s' run quiet ?_
      rwa [← held]
    · refine Program.ensures_pure_iff.mpr fun smooth => ?_
      rw [List.append_nil] at smooth
      exact absurd failed (quiet.unfailed (untroubled_cons.mp smooth).2)

/-- When nothing comes in the way of such a run, the place is at its target in the end. -/
theorem Reached.converged {report : Report} (reached : Reached t s es report s')
    (ofFamily : t.address.family = t.family) (distinct : s.provider.RecordsDistinct)
    (smooth : Untroubled es) :
    report.stopped = false ∧ (report.outcome = .updated ∨ report.outcome = .unchanged) ∧
      ∃ r, t.held s'.provider = [r] ∧ r.address = t.address := by
  obtain ⟨es, es', outcome, stopped, s₁, s', found, quiet, run⟩ := reached
  rw [← quiet.provider] at distinct
  obtain ⟨_, smooth⟩ := untroubled_append.mp (untroubled_cons.mp smooth).2
  obtain ⟨⟨done, rfl⟩, _⟩ := ensures_converge_done ofFamily distinct _ _ _ run smooth
  obtain ⟨r, one, alone⟩ := (ensures_converge_converged ofFamily distinct _ _ _ run).1 done
  refine ⟨rfl, done, r, alone rfl, ?_⟩
  have mem : r ∈ (t.held s'.provider).filter (·.address = t.address) := by
    rw [one]
    exact List.mem_singleton_self r
  exact of_decide_eq_true (List.mem_filter.mp mem).2

end Reconcile

namespace Simulation.World

variable {α : Type} {Q : Call → Prop} {p : Sync α} {w : World} {r : Request} {c : Call}

structure Calm (w : World) : Prop where
  undisturbed : w.Undisturbed
  stop : w.stop = {}
  deadline : w.deadline = none

def Spent (w : World) : Prop := ∀ f ∈ w.faults, f.left = some 0

instance : Decidable w.Spent := inferInstanceAs (Decidable (∀ f ∈ w.faults, f.left = some 0))

theorem Calm.stopRequested (calm : w.Calm) : w.stopRequested = false := by
  rw [World.stopRequested, stopAsked, calm.stop, calm.deadline]
  rfl

theorem Calm.afterCall (calm : w.Calm) (c : Call) : (w.afterCall c).Calm := by
  refine ⟨calm.undisturbed, ?_, calm.deadline⟩
  simp [World.afterCall, calm.stop]

theorem Spent.strike? (spent : w.Spent) (c : Call) : strike? c w.faults = none := by
  unfold Spent at spent
  generalize w.faults = faults at spent ⊢
  induction faults with
  | nil => rfl
  | cons f rest ih =>
    obtain ⟨here, there⟩ := List.forall_mem_cons.mp spent
    rw [Simulation.strike?, Fault.strikes, here, ih there]
    simp

theorem Calm.answerCall (calm : w.Calm) (c : Call) : (w.answerCall c).2.Calm := by
  unfold World.answerCall
  rw [wait_of_undisturbed calm.undisturbed]
  dsimp only
  refine Calm.afterCall ?_ c
  split <;> exact ⟨calm.undisturbed, calm.stop, calm.deadline⟩

theorem Spent.answerCall (spent : w.Spent) (calm : w.Calm) (c : Call) :
    (w.answerCall c).2.Spent ∧ (w.answerCall c).1 = (w.provider.perform c).1 ∧
      (w.answerCall c).2.provider = (w.provider.perform c).2 := by
  unfold World.answerCall
  rw [wait_of_undisturbed calm.undisturbed]
  dsimp only
  rw [spent.strike? c]
  exact ⟨spent, rfl, rfl⟩

theorem Calm.run (only : OnlyAsks (Calls Q) p) (calm : w.Calm) :
    (w.run p).2.Calm ∧ (w.Spent → (w.run p).2.Spent ∧ Untroubled (w.trace p)) := by
  induction p generalizing w with
  | done a => exact ⟨calm, fun spent => ⟨spent, untroubled_nil⟩⟩
  | ask r next ih =>
    have step : (answer r w).2.Calm ∧
        (w.Spent → (answer r w).2.Spent ∧ Untroubled (moments r w)) := by
      have allowed := only.1
      cases r with
      | call c =>
        refine ⟨calm.answerCall c, fun spent => ?_⟩
        obtain ⟨after, reply, provider⟩ := spent.answerCall calm c
        exact ⟨after, untroubled_cons.mpr ⟨⟨reply, provider⟩, untroubled_nil⟩⟩
      | detect | emit | limitWork => cases allowed
      | stopRequested =>
        exact ⟨calm, fun spent => ⟨spent, untroubled_cons.mpr ⟨calm.stopRequested, untroubled_nil⟩⟩⟩
      | look => exact ⟨calm, fun spent => ⟨spent, untroubled_nil⟩⟩
      | revise | log =>
        exact ⟨⟨calm.undisturbed, calm.stop, calm.deadline⟩, fun spent => ⟨spent, untroubled_nil⟩⟩
    obtain ⟨middle, first⟩ := step
    obtain ⟨last, rest⟩ := ih (answer r w).1 (only.2 _) middle
    refine ⟨last, fun spent => ?_⟩
    obtain ⟨kept, here⟩ := first spent
    obtain ⟨kept, there⟩ := rest kept
    exact ⟨kept, untroubled_append.mpr ⟨here, there⟩⟩

end Simulation.World

end AddressSync
