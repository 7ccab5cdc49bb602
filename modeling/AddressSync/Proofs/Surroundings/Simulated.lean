import AddressSync.Proofs.Surroundings.Scene
import AddressSync.Simulation.World

/-! The simulated world, as long as nobody else acts in it, answers as a scene may: what holds of
all runs in a scene holds of the runs that the simulation makes. -/

namespace AddressSync.Simulation.World

def scene (w : World) : Scene := ⟨w.now, w.provider, w.caches⟩

def Undisturbed (w : World) : Prop := w.agenda = []

theorem idle_of_undisturbed {w : World} (h : w.Undisturbed) (instant : Nat) :
    w.idle instant = { w with now := max w.now instant } := by
  unfold Undisturbed at h
  unfold idle
  rw [h]
  rfl

theorem wait_of_undisturbed {w : World} (h : w.Undisturbed) (delay : Nat) :
    w.wait delay = { w with now := w.now + delay } := by
  have later : max w.now (w.now + delay) = w.now + delay := Nat.max_eq_right (Nat.le_add_right ..)
  rw [wait, idle_of_undisturbed h, later]

def moments : Sync.Request → World → List Moment
  | .call c, w => [.called c (w.answerCall c).1 w.provider (w.answerCall c).2.provider]
  | .detect family limit, w => [.detected family (w.answerDetect family limit).1]
  | .stopRequested, w => [.stopAsked w.stopRequested]
  | .emit event, w => [.told event w.provider]
  | .look, _ | .revise _, _ | .limitWork _, _ | .log _, _ => []

def Allowed (w : World) (r : Sync.Request) : Prop :=
  (answer r w).2.Undisturbed ∧
    w.scene.react r (answer r w).1 (moments r w) (answer r w).2.scene

theorem answerCall_allowed {w : World} (h : w.Undisturbed) (c : Call) : w.Allowed (.call c) := by
  unfold Allowed answer moments
  dsimp only
  rw [answerCall, wait_of_undisturbed h]
  have later : w.now ≤ w.now + w.latency (kindOf c) := Nat.le_add_right ..
  cases struck : strike? c w.faults with
  | none => exact ⟨h, later, rfl, .performed, rfl⟩
  | some fault =>
    obtain ⟨⟨kind, target, left, failure, effective⟩, faults⟩ := fault
    refine ⟨h, later, rfl, ?_, rfl⟩
    cases effective with
    | true => exact .unheard failure
    | false => exact .lost failure

theorem setSights_undisturbed {w : World} (h : w.Undisturbed) (family : Family)
    (sights : List Sight) :
    (w.setSights family sights).Undisturbed ∧ (w.setSights family sights).scene = w.scene := by
  cases family <;> exact ⟨h, rfl⟩

theorem answerDetect_allowed {w : World} (h : w.Undisturbed) (family : Family) (limit : Nat) :
    w.Allowed (.detect family limit) := by
  change (w.answerDetect family limit).2.Undisturbed ∧ w.scene.react (.detect family limit)
    (w.answerDetect family limit).1 [.detected family (w.answerDetect family limit).1]
      (w.answerDetect family limit).2.scene
  unfold answerDetect
  rcases nextSight family (w.sights family) with ⟨sight, rest⟩
  obtain ⟨quiet, same⟩ := setSights_undisturbed h family rest
  rw [← same]
  dsimp only
  generalize w.setSights family rest = w' at quiet ⊢
  simp only [wait_of_undisturbed quiet]
  have later (delay : Nat) : w'.now ≤ w'.now + delay := Nat.le_add_right ..
  split
  · exact ⟨quiet, later limit, rfl, rfl⟩
  · exact ⟨quiet, later 0, rfl, rfl⟩
  · split
    · exact ⟨quiet, later limit, rfl, rfl⟩
    · exact ⟨quiet, later _, rfl, rfl⟩

theorem answer_allowed (r : Sync.Request) {w : World} (h : w.Undisturbed) : w.Allowed r := by
  have now := Nat.le_refl w.now
  cases r with
  | call c => exact answerCall_allowed h c
  | detect family limit => exact answerDetect_allowed h family limit
  | look => exact ⟨h, now, rfl, rfl, rfl⟩
  | revise change => exact ⟨h, now, rfl, rfl⟩
  | stopRequested => exact ⟨h, rfl, rfl⟩
  | limitWork limit => exact ⟨h, rfl, rfl⟩
  | log line => exact ⟨h, rfl, rfl⟩
  | emit event =>
    have same : (w.addEvent event).Undisturbed ∧ (w.addEvent event).scene = w.scene := by
      unfold addEvent
      split <;> exact ⟨h, rfl⟩
    exact ⟨same.1, same.2, rfl⟩

def trace {α : Type} (p : Sync α) (w : World) : List Moment := Program.trace answer moments p w

theorem runs_trace {α : Type} (p : Sync α) {w : World} (h : w.Undisturbed) :
    Sync.Runs p w.scene (w.trace p) (w.run p).1 (w.run p).2.scene :=
  Program.runs_trace scene Undisturbed (fun r _ h => (answer_allowed r h).1)
    (fun r _ h => (answer_allowed r h).2) p w h

theorem runs_run {α : Type} (p : Sync α) {w : World} (h : w.Undisturbed) :
    ∃ es, Sync.Runs p w.scene es (w.run p).1 (w.run p).2.scene :=
  ⟨w.trace p, runs_trace p h⟩

end AddressSync.Simulation.World
