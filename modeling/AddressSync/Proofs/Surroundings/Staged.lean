import AddressSync.Proofs.Directory.Effects
import AddressSync.Proofs.Surroundings.Simulated

/-! Surroundings that leave nothing to chance. Calls take no time, and those that only read never
fail; what happens to a change, and when work is asked to stop, follows from the changes that were
asked for. Two runs may then differ by their caches alone. -/

namespace AddressSync.Simulation

structure Mishap where
  failure : Failure
  effective : Bool

structure Course where
  mishap? : Nat → List Call → Option Mishap
  stops : Nat → Bool

structure Stage where
  now : Nat
  provider : Provider
  caches : Caches
  changes : List Call := []

namespace Stage

variable (course : Course)

def perform (c : Call) (s : Stage) : Except Failure c.Reply × Stage :=
  ((s.provider.perform c).1, { s with provider := (s.provider.perform c).2 })

def fail (mishap : Mishap) (c : Call) (s : Stage) : Except Failure c.Reply × Stage :=
  (.error mishap.failure,
    if mishap.effective then { s with provider := (s.provider.perform c).2 } else s)

def change (c : Call) (s : Stage) : Except Failure c.Reply × Stage :=
  let s := { s with changes := s.changes ++ [c] }
  match course.mishap? s.now s.changes with
  | some mishap => s.fail mishap c
  | none => s.perform c

def answerCall (c : Call) (s : Stage) : Except Failure c.Reply × Stage :=
  if c.isMutation then s.change course c else s.perform c

def answer : (r : Sync.Request) → Stage → Sync.Answer r × Stage
  | .call c, s => s.answerCall course c
  | .detect _ _, s => (none, s)
  | .look, s => ((s.now, s.caches), s)
  | .revise change, s => ((), { s with caches := change s.now s.caches })
  | .stopRequested, s => (course.stops s.changes.length, s)
  | .limitWork _, s | .log _, s | .emit _, s => ((), s)

def run {α : Type} (p : Sync α) (s : Stage) : α × Stage := Program.run (answer course) p s

def scene (s : Stage) : Scene := ⟨s.now, s.provider, s.caches⟩

def moments : Sync.Request → Stage → List Moment
  | .call c, s =>
    [.called c (s.answerCall course c).1 s.provider (s.answerCall course c).2.provider]
  | .detect family _, _ => [.detected family none]
  | .stopRequested, s => [.stopAsked (course.stops s.changes.length)]
  | .emit event, s => [.told event s.provider]
  | .look, _ | .revise _, _ | .limitWork _, _ | .log _, _ => []

def trace {α : Type} (p : Sync α) (s : Stage) : List Moment :=
  Program.trace (answer course) (moments course) p s

end Stage

end AddressSync.Simulation

namespace AddressSync.Simulation.Stage

open Sync

variable {α β : Type} {course : Course} {s s' s'' : Stage} {p : Sync α}

theorem answerCall_of_reads (course : Course) {c : Call} (s : Stage)
    (reads : c.isMutation = false) :
    (s.answerCall course c).2 = s ∧ (s.answerCall course c).1.isOk = true := by
  rw [answerCall, reads]
  cases c with
  | listZones | listRecords | listLists | listItems => exact ⟨rfl, rfl⟩
  | _ => cases reads

theorem answerCall_ends (course : Course) (c : Call) (s : Stage) :
    s.provider.Ends c (s.answerCall course c).1 (s.answerCall course c).2.provider ∧
      (s.answerCall course c).2.now = s.now ∧ (s.answerCall course c).2.caches = s.caches := by
  unfold answerCall
  split
  · unfold change
    dsimp only
    split
    · next mishap _ =>
      unfold fail
      split
      · exact ⟨.unheard _, rfl, rfl⟩
      · exact ⟨.lost _, rfl, rfl⟩
    · exact ⟨.performed, rfl, rfl⟩
  · exact ⟨.performed, rfl, rfl⟩

theorem answer_allowed (course : Course) (r : Request) (s : Stage) :
    s.scene.react r (answer course r s).1 (moments course r s) (answer course r s).2.scene := by
  have now := Nat.le_refl s.now
  cases r with
  | call c =>
    obtain ⟨ends, same, caches⟩ := answerCall_ends course c s
    exact ⟨Nat.le_of_eq same.symm, caches, ends, rfl⟩
  | detect family limit => exact ⟨now, rfl, rfl⟩
  | look => exact ⟨now, rfl, rfl, rfl⟩
  | revise change => exact ⟨now, rfl, rfl⟩
  | stopRequested => exact ⟨rfl, rfl⟩
  | limitWork | log | emit => exact ⟨rfl, rfl⟩

theorem run_ensures (course : Course) {post : List Moment → α → Scene → Prop}
    (h : Sync.Ensures p s.scene post) :
    post (s.trace course p) (s.run course p).1 (s.run course p).2.scene :=
  h _ _ _ (Program.runs_trace scene (fun _ => True) (fun _ _ _ => trivial)
    (fun r s _ => answer_allowed course r s) p s trivial)

theorem run_bind (course : Course) (p : Sync α) (f : α → Sync β) (s : Stage) :
    s.run course (p >>= f) = (s.run course p).2.run course (f (s.run course p).1) :=
  Program.run_bind (S := signature) _ p f s

structure Alike (s s' : Stage) : Prop where
  now : s'.now = s.now
  provider : s'.provider = s.provider
  changes : s'.changes = s.changes

theorem Alike.refl (s : Stage) : s.Alike s := ⟨rfl, rfl, rfl⟩

theorem Alike.symm (h : s.Alike s') : s'.Alike s := ⟨h.now.symm, h.provider.symm, h.changes.symm⟩

theorem Alike.trans (first : s.Alike s') (rest : s'.Alike s'') : s.Alike s'' :=
  ⟨rest.now.trans first.now, rest.provider.trans first.provider, rest.changes.trans first.changes⟩

theorem answer_alike (course : Course) (alike : s.Alike s') {r : Request} (blind : r ≠ .look) :
    (answer course r s).1 = (answer course r s').1 ∧
      (answer course r s).2.Alike (answer course r s').2 := by
  obtain ⟨now, provider, caches, changes⟩ := s
  obtain ⟨_, _, caches', _⟩ := s'
  obtain ⟨rfl, rfl, rfl⟩ := alike
  cases r with
  | call c =>
    unfold answer answerCall
    dsimp only
    split
    · unfold change
      dsimp only
      split
      · next mishap _ =>
        refine ⟨rfl, ?_⟩
        unfold fail
        dsimp only
        split <;> exact ⟨rfl, rfl, rfl⟩
      · exact ⟨rfl, rfl, rfl, rfl⟩
    · exact ⟨rfl, rfl, rfl, rfl⟩
  | look => exact absurd rfl blind
  | detect | revise | stopRequested | limitWork | log | emit => exact ⟨rfl, rfl, rfl, rfl⟩

/-- A run in which nothing is asked but what there is leaves the stage as it is but for its caches,
and none of its calls fails. -/
theorem run_of_reads (reads : ∀ m ∈ s.trace course p, ¬ m.Mutates) :
    s.Alike (s.run course p).2 ∧ ∀ m ∈ s.trace course p, ¬ m.Fails := by
  induction p generalizing s with
  | done a => exact ⟨.refl s, fun _ mem => absurd mem List.not_mem_nil⟩
  | ask r next ih =>
    obtain ⟨here, rest⟩ := List.forall_mem_append.mp reads
    have step : s.Alike (answer course r s).2 ∧ ∀ m ∈ moments course r s, ¬ m.Fails := by
      cases r with
      | call c =>
        have reads : c.isMutation = false :=
          eq_false_of_ne_true (here _ (List.mem_singleton_self _))
        obtain ⟨same, ok⟩ := answerCall_of_reads course s reads
        refine ⟨⟨congrArg now same, congrArg provider same, congrArg changes same⟩, ?_⟩
        exact List.forall_mem_singleton.mpr fun failed => Bool.false_ne_true (failed.symm.trans ok)
      | detect => exact ⟨.refl s, List.forall_mem_singleton.mpr not_false⟩
      | stopRequested => exact ⟨.refl s, List.forall_mem_singleton.mpr not_false⟩
      | emit => exact ⟨.refl s, List.forall_mem_singleton.mpr not_false⟩
      | look | revise | limitWork | log =>
        exact ⟨⟨rfl, rfl, rfl⟩, fun _ mem => absurd mem List.not_mem_nil⟩
    obtain ⟨last, all⟩ := ih _ rest
    exact ⟨step.1.trans last, List.forall_mem_append.mpr ⟨step.2, all⟩⟩

end AddressSync.Simulation.Stage
