import AddressSync.Proofs.Reconcile.Completion

/-! What happens in the simulated world before the work of a cycle begins: the source is asked, news
are told, lines are logged. Time passes meanwhile, and nothing else comes of it, whatever faults there
are. -/

namespace AddressSync.Simulation.World

open Sync Program

variable {α : Type} {w w' w'' : World} {r : Request} {p : Sync α}

def among (w : World) (faults : List Fault) : World := { w with faults }

def Watches : Request → Prop
  | .detect .. | .emit _ | .log _ => True
  | .call _ | .look | .revise _ | .stopRequested | .limitWork _ => False

/-- For the work to come, only time passed. -/
structure Waited (w w' : World) : Prop where
  calm : w'.Calm
  latencies : w'.latencies = w.latencies
  later : w.now ≤ w'.now
  scene : w'.scene = { w.scene with now := w'.now }

theorem Waited.trans (first : w.Waited w') (rest : w'.Waited w'') : w.Waited w'' where
  calm := rest.calm
  latencies := rest.latencies.trans first.latencies
  later := Nat.le_trans first.later rest.later
  scene := by rw [rest.scene, first.scene]

theorem wait_waited (calm : w.Calm) (delay : Nat) (entry : Entry) :
    w.Waited ((w.wait delay).note entry) ∧ ∀ faults,
      ((w.among faults).wait delay).note entry = ((w.wait delay).note entry).among faults := by
  have undisturbed := calm.undisturbed
  rw [wait_of_undisturbed undisturbed]
  refine ⟨⟨⟨undisturbed, calm.stop, calm.deadline⟩, rfl, Nat.le_add_right .., rfl⟩, fun faults => ?_⟩
  rw [wait_of_undisturbed (show (w.among faults).Undisturbed from undisturbed)]
  rfl

theorem setSights_waited (calm : w.Calm) (family : Family) (rest : List Sight) :
    w.Waited (w.setSights family rest) ∧ ∀ faults,
      (w.among faults).setSights family rest = (w.setSights family rest).among faults := by
  have later := Nat.le_refl w.now
  cases family <;>
    exact ⟨⟨⟨calm.undisturbed, calm.stop, calm.deadline⟩, rfl, later, rfl⟩, fun _ => rfl⟩

theorem answerDetect_waited (calm : w.Calm) (family : Family) (limit : Nat) :
    w.Waited (w.answerDetect family limit).2 ∧ ∀ faults,
      (w.among faults).answerDetect family limit =
        ((w.answerDetect family limit).1, (w.answerDetect family limit).2.among faults) := by
  have same (faults : List Fault) : (w.among faults).sights family = w.sights family := by
    cases family <;> rfl
  unfold answerDetect
  dsimp only
  simp only [same]
  rcases nextSight family (w.sights family) with ⟨sight, rest⟩
  obtain ⟨seen, alike⟩ := setSights_waited calm family rest
  simp only [alike]
  generalize w.setSights family rest = w₁ at seen ⊢
  have waits (delay : Nat) (entry : Entry) := wait_waited seen.calm delay entry
  have late (entry : Entry) := waits limit entry
  cases sight with
  | silence => exact ⟨seen.trans (late _).1, fun faults => congrArg (none, ·) ((late _).2 faults)⟩
  | failure f =>
    have noted := seen.calm
    exact ⟨⟨⟨noted.undisturbed, noted.stop, noted.deadline⟩, seen.latencies, seen.later, seen.scene⟩,
      fun _ => rfl⟩
  | address a delay =>
    dsimp only
    split
    · exact ⟨seen.trans (late _).1, fun faults => congrArg (none, ·) ((late _).2 faults)⟩
    · refine ⟨seen.trans (waits delay _).1, fun faults => ?_⟩
      exact congrArg (some (Except.ok a), ·) ((waits delay ⟨w.now, .detect family, some true⟩).2 faults)

theorem answer_waited (calm : w.Calm) (watches : Watches r) :
    w.Waited (answer r w).2 ∧ ∀ faults,
      answer r (w.among faults) = ((answer r w).1, (answer r w).2.among faults) := by
  have later := Nat.le_refl w.now
  cases r with
  | detect family limit => exact answerDetect_waited calm family limit
  | log line => exact ⟨⟨⟨calm.undisturbed, calm.stop, calm.deadline⟩, rfl, later, rfl⟩, fun _ => rfl⟩
  | emit event =>
    have kept : w.Waited (w.addEvent event) := by
      unfold addEvent
      split <;> exact ⟨⟨calm.undisturbed, calm.stop, calm.deadline⟩, rfl, later, rfl⟩
    refine ⟨kept, fun faults => congrArg ((), ·) ?_⟩
    change (if w.events.length < w.capacity then _ else _) = (w.addEvent event).among faults
    unfold addEvent
    split <;> rfl
  | call | look | revise | stopRequested | limitWork => exact watches.elim

theorem run_waited (calm : w.Calm) (watches : Asks (S := signature) Watches p) :
    w.Waited (w.run p).2 ∧ ∀ faults,
      (w.among faults).run p = ((w.run p).1, (w.run p).2.among faults) := by
  induction p generalizing w with
  | done a => exact ⟨⟨calm, rfl, Nat.le_refl _, rfl⟩, fun _ => rfl⟩
  | ask r next ih =>
    obtain ⟨first, same⟩ := answer_waited calm watches.1
    obtain ⟨rest, same'⟩ := ih (answer r w).1 first.calm (watches.2 _)
    refine ⟨first.trans rest, fun faults => ?_⟩
    have step : (w.among faults).run (.ask r next) =
        (answer r (w.among faults)).2.run (next (answer r (w.among faults)).1) := rfl
    rw [step, same, same']
    rfl

end AddressSync.Simulation.World
