import AddressSync.Proofs.Program.Asks
import AddressSync.Simulation.World

/-! Surroundings in which others may do anything at any time. Nothing is known of what the provider
answers; what it told of zones is noted, with the time. -/

namespace AddressSync

open Sync Simulation

structure Heard where
  time : Nat
  name : String
  zones : List Zone

structure Watch where
  now : Nat
  caches : Caches

/-- A call takes any time and gets any reply. Nothing else takes time. -/
def Watch.react : Program.Reaction Sync.signature Watch Heard
  | s, .call (.listZones name), reply, es, s' =>
    s.now ≤ s'.now ∧ s' = { s with now := s'.now } ∧
      es = match (reply : Except Failure (List Zone)) with
        | .ok zones => [⟨s'.now, name, zones⟩]
        | .error _ => []
  | s, .look, seen, es, s' => s' = s ∧ seen = (s.now, s.caches) ∧ es = []
  | s, .revise change, _, es, s' => s' = { s with caches := change s.now s.caches } ∧ es = []
  | s, .call _, _, es, s' | s, .detect _ _, _, es, s' =>
    s.now ≤ s'.now ∧ s' = { s with now := s'.now } ∧ es = []
  | s, .stopRequested, _, es, s' | s, .limitWork _, _, es, s' | s, .log _, _, es, s'
  | s, .emit _, _, es, s' => s' = s ∧ es = []

namespace Watch

abbrev Runs {α : Type} (p : Sync α) (s : Watch) (es : List Heard) (a : α) (s' : Watch) : Prop :=
  Program.Runs Watch.react p s es a s'

abbrev Ensures {α : Type} (p : Sync α) (s : Watch) (post : List Heard → α → Watch → Prop) : Prop :=
  Program.Ensures Watch.react p s post

variable {β : Type} {s : Watch} {post : List Heard → β → Watch → Prop}

theorem ensures_look_iff {f : Nat × Caches → Sync β} :
    Ensures (look >>= f) s post ↔ Ensures (f (s.now, s.caches)) s post := by
  refine Program.ensures_perform_bind_iff.trans ⟨fun h => h _ [] s ⟨rfl, rfl, rfl⟩, ?_⟩
  rintro h seen es s' ⟨rfl, rfl, rfl⟩
  exact h

theorem ensures_revise_iff {change : Nat → Caches → Caches} {f : Unit → Sync β} :
    Ensures (revise change >>= f) s post ↔
      Ensures (f ()) { s with caches := change s.now s.caches } post := by
  refine Program.ensures_perform_bind_iff.trans ⟨fun h => h () [] _ ⟨rfl, rfl⟩, ?_⟩
  rintro h x es s' ⟨rfl, rfl⟩
  exact h

theorem ensures_log_iff {level : Log.Level} {message : String} {fields : List (String × Log.Field)}
    {f : Unit → Sync β} : Ensures (log level message fields >>= f) s post ↔ Ensures (f ()) s post := by
  refine Program.ensures_perform_bind_iff.trans ⟨fun h => h () [] s ⟨rfl, rfl⟩, ?_⟩
  rintro h x es s' ⟨rfl, rfl⟩
  exact h

theorem ensures_silent {p : Sync Unit} {f : Unit → Sync β} (silent : Silent p)
    (rest : Ensures (f ()) s post) : Ensures (p >>= f) s post := by
  refine Program.Ensures.bind (silent.ensures (fun _ _ _ _ _ h => h.symm) s) ?_
  rintro es a s' ⟨rfl, rfl⟩
  exact rest

end Watch

namespace Simulation.World

def watch (w : World) : Watch := ⟨w.now, w.caches⟩

def heard : Sync.Request → World → List Heard
  | .call (.listZones name), w =>
    match (w.answerCall (.listZones name)).1 with
    | .ok zones => [⟨(w.answerCall (.listZones name)).2.now, name, zones⟩]
    | .error _ => []
  | _, _ => []

variable {w : World}

theorem watch_intervene (w : World) (i : Intervention) : (w.intervene i).2.watch = w.watch := by
  cases i with
  | source family sights => cases family <;> rfl
  | _ => rfl

theorem watch_foldl_intervene (due : List (Nat × Intervention)) (w : World) :
    (due.foldl (fun w entry => (w.intervene entry.2).2) w).watch = w.watch := by
  induction due generalizing w with
  | nil => rfl
  | cons entry due ih => exact (ih _).trans (watch_intervene w entry.2)

theorem watch_idle (w : World) (instant : Nat) :
    (w.idle instant).watch = { w.watch with now := max w.now instant } := by
  have kept := watch_foldl_intervene (w.agenda.span fun entry => entry.1 ≤ instant).1 w
  exact congrArg (fun v : Watch => { v with now := max v.now instant }) kept

theorem watch_setSights (w : World) (family : Family) (sights : List Sight) :
    (w.setSights family sights).watch = w.watch := by
  cases family <;> rfl

theorem watch_wait (w : World) (delay : Nat) :
    (w.wait delay).watch = { w.watch with now := w.now + delay } := by
  rw [wait, watch_idle, Nat.max_eq_right (Nat.le_add_right ..)]

theorem watch_answerCall (w : World) (c : Call) :
    (w.answerCall c).2.watch = { w.watch with now := w.now + w.latency (kindOf c) } := by
  rw [← watch_wait]
  unfold answerCall
  dsimp only
  split <;> rfl

theorem watch_answerDetect (w : World) (family : Family) (limit : Nat) :
    ∃ t, w.now ≤ t ∧ (w.answerDetect family limit).2.watch = { w.watch with now := t } := by
  unfold answerDetect
  rcases nextSight family (w.sights family) with ⟨sight, rest⟩
  have same := watch_setSights w family rest
  have waits (delay : Nat) : ∃ t, w.now ≤ t ∧
      ((w.setSights family rest).wait delay).watch = { w.watch with now := t } := by
    rw [watch_wait, same]
    exact ⟨_, Nat.le_trans (Nat.le_of_eq (congrArg Watch.now same).symm) (Nat.le_add_right ..), rfl⟩
  dsimp only
  split
  · exact waits limit
  · exact ⟨w.now, Nat.le_refl _, same⟩
  · split
    · exact waits limit
    · exact waits _

theorem react_answer (r : Sync.Request) (w : World) :
    w.watch.react r (answer r w).1 (heard r w) (answer r w).2.watch := by
  cases r with
  | call c =>
    have called : (w.answerCall c).2.watch = { w.watch with now := w.now + w.latency (kindOf c) } :=
      watch_answerCall w c
    have later : w.now ≤ (w.answerCall c).2.watch.now := by
      rw [called]
      exact Nat.le_add_right ..
    have same : (w.answerCall c).2.watch =
        { w.watch with now := (w.answerCall c).2.watch.now } := by
      rw [called]
    cases c with
    | listZones name => exact ⟨later, same, rfl⟩
    | _ => exact ⟨later, same, rfl⟩
  | detect family limit =>
    obtain ⟨t, later, same⟩ := watch_answerDetect w family limit
    change w.now ≤ (w.answerDetect family limit).2.watch.now ∧ (w.answerDetect family limit).2.watch =
      { w.watch with now := (w.answerDetect family limit).2.watch.now } ∧ [] = []
    rw [same]
    exact ⟨later, rfl, rfl⟩
  | emit event =>
    refine ⟨?_, rfl⟩
    change (w.addEvent event).watch = w.watch
    unfold addEvent
    split <;> rfl
  | look => exact ⟨rfl, rfl, rfl⟩
  | revise | stopRequested | limitWork | log => exact ⟨rfl, rfl⟩

theorem watch_run {α : Type} (p : Sync α) (w : World) :
    Watch.Runs p w.watch (Program.trace answer heard p w) (w.run p).1 (w.run p).2.watch :=
  Program.runs_trace watch (fun _ => True) (fun _ _ _ => trivial) (fun r w _ => react_answer r w) p w
    trivial

end Simulation.World

end AddressSync
