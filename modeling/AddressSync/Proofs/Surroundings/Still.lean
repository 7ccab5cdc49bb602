import AddressSync.Directory.Through
import AddressSync.Proofs.Cache.Agreement
import AddressSync.Proofs.Surroundings.Simulated

/-! Surroundings in which time stands still: calls take no time, faults do not wear off, and nobody
asks to stop. Where a program begins and which faults there are then decide how it ends, so that two
runs can be set side by side. -/

namespace AddressSync

open Sync Simulation Program

namespace Simulation

def Fault.hits (f : Fault) (kind : Kind) (target : String) : Bool :=
  f.kind = kind && f.target.all (· == target) && f.left ≠ some 0

def struck? (faults : List Fault) (kind : Kind) (target : String) : Option Fault :=
  faults.find? (·.hits kind target)

/-- Whether calls of a kind for a target fail, and if so, whether they do their work all the same. -/
def fate? (faults : List Fault) (kind : Kind) (target : String) : Option Bool :=
  (struck? faults kind target).map Fault.effective

theorem strike?_of_permanent {faults : List Fault} (permanent : ∀ f ∈ faults, f.left = none)
    (c : Call) :
    strike? c faults = (struck? faults (kindOf c) (targetOf c)).map fun f => (f, faults) := by
  induction faults with
  | nil => rfl
  | cons f rest ih =>
    obtain ⟨here, there⟩ := List.forall_mem_cons.mp permanent
    have same : f.strikes c = f.hits (kindOf c) (targetOf c) := rfl
    have spent : f.spend = f := by
      rw [Fault.spend, here]
      exact congrArg (fun left => { f with left }) here.symm
    rw [strike?, struck?, List.find?_cons, same]
    cases hit : f.hits (kindOf c) (targetOf c) with
    | true => simp [spent]
    | false =>
      simp only [Bool.false_eq_true, if_false, ih there, Option.map_map]
      rfl

end Simulation

namespace Scene

variable {α β : Type}

def meet (faults : List Fault) (c : Call) (s : Scene) : Except Failure c.Reply × Scene :=
  match struck? faults (kindOf c) (targetOf c) with
  | some fault =>
    let p := if fault.effective then (s.provider.perform c).2 else s.provider
    (.error fault.failure, { s with provider := p })
  | none => ((s.provider.perform c).1, { s with provider := (s.provider.perform c).2 })

def answer (faults : List Fault) : (r : Request) → Scene → Answer r × Scene
  | .call c, s => s.meet faults c
  | .detect _ _, s => (none, s)
  | .look, s => ((s.now, s.caches), s)
  | .revise change, s => ((), { s with caches := change s.now s.caches })
  | .stopRequested, s => (false, s)
  | .limitWork _, s | .log _, s | .emit _, s => ((), s)

def run (faults : List Fault) (p : Sync α) (s : Scene) : α × Scene :=
  Program.run (answer faults) p s

theorem run_bind (faults : List Fault) (p : Sync α) (f : α → Sync β) (s : Scene) :
    s.run faults (p >>= f) = (s.run faults p).2.run faults (f (s.run faults p).1) :=
  Program.run_bind ..

theorem run_silent {faults : List Fault} {p : Sync Unit} (silent : Silent p) (s : Scene) :
    s.run faults p = ((), s) := by
  induction p with
  | done a => rfl
  | ask r next ih =>
    obtain ⟨⟨line, rfl⟩, rest⟩ := silent
    exact ih () (rest ())

theorem answer_now (faults : List Fault) (r : Request) (s : Scene) :
    (s.answer faults r).2.now = s.now := by
  cases r with
  | call c =>
    unfold answer meet
    dsimp only
    split <;> rfl
  | _ => rfl

theorem run_now (s : Scene) (faults : List Fault) (p : Sync α) : (s.run faults p).2.now = s.now := by
  induction p generalizing s with
  | done a => rfl
  | ask r next ih => exact (ih _ _).trans (answer_now faults r s)

theorem react_answer (faults : List Fault) (r : Request) (s : Scene) :
    ∃ es, Scene.react s r (s.answer faults r).1 es (s.answer faults r).2 := by
  have now := Nat.le_refl s.now
  cases r with
  | call c =>
    refine ⟨_, Nat.le_of_eq (answer_now faults (.call c) s).symm, ?_, ?_, rfl⟩ <;> unfold answer meet
    · dsimp only
      split <;> rfl
    · dsimp only
      cases struck? faults (kindOf c) (targetOf c) with
      | none => exact .performed
      | some fault =>
        obtain ⟨kind, target, left, failure, effective⟩ := fault
        cases effective with
        | true => exact .unheard failure
        | false => exact .lost failure
  | look => exact ⟨_, now, rfl, rfl, rfl⟩
  | detect | revise => exact ⟨_, now, rfl, rfl⟩
  | stopRequested | limitWork | log | emit => exact ⟨_, rfl, rfl⟩

/-- Such a run is one of those that a scene allows. -/
theorem runs_run (faults : List Fault) (p : Sync α) (s : Scene) :
    ∃ es, Sync.Runs p s es (s.run faults p).1 (s.run faults p).2 := by
  induction p generalizing s with
  | done a => exact ⟨[], .done a s⟩
  | ask r next ih =>
    obtain ⟨es, answered⟩ := react_answer faults r s
    obtain ⟨es', rest⟩ := ih (s.answer faults r).1 (s.answer faults r).2
    exact ⟨es ++ es', .ask answered rest⟩

theorem run_of_ensures {p : Sync α} {s : Scene} {post : List Moment → α → Scene → Prop}
    (faults : List Fault) (h : Sync.Ensures p s post) :
    ∃ es, post es (s.run faults p).1 (s.run faults p).2 := by
  obtain ⟨es, run⟩ := runs_run faults p s
  exact ⟨es, h es _ _ run⟩

end Scene

namespace Simulation.World

variable {α : Type} {faults : List Fault} {w : World} {r : Request} {p : Sync α}

/-- Nobody else acts, nothing asks work to stop, and no call takes time. -/
structure Still (faults : List Fault) (w : World) : Prop where
  undisturbed : w.Undisturbed
  stop : w.stop = {}
  ahead : ∀ deadline ∈ w.deadline, w.now < deadline
  swift : ∀ kind, w.latency kind = 0
  faults : w.faults = faults

def Prompt : Request → Prop
  | .detect _ _ => False
  | .limitWork limit => ∀ n ∈ limit, 0 < n
  | _ => True

theorem Still.stopRequested (still : w.Still faults) : w.stopRequested = false := by
  have ahead := still.ahead
  rw [World.stopRequested, stopAsked, still.stop]
  cases limit : w.deadline with
  | none => rfl
  | some deadline =>
    have later := ahead deadline limit
    simp only [Option.any_some, Option.any_none, Bool.or_self, Bool.false_or, decide_eq_false_iff_not]
    omega

theorem Still.answerCall (permanent : ∀ f ∈ faults, f.left = none) (still : w.Still faults)
    (c : Call) :
    (w.answerCall c).1 = (w.scene.meet faults c).1 ∧
      (w.answerCall c).2.scene = (w.scene.meet faults c).2 ∧ (w.answerCall c).2.Still faults := by
  obtain ⟨undisturbed, stop, ahead, swift, rfl⟩ := still
  unfold World.answerCall Scene.meet
  rw [wait_of_undisturbed undisturbed, swift]
  dsimp only [Nat.add_zero]
  rw [strike?_of_permanent permanent]
  have stopped (p : Provider) (entry : Entry) :
      (({ w with provider := p } : World).note entry |>.afterCall c).stop = {} := by
    simp [note, afterCall, stop]
  cases struck : struck? w.faults (kindOf c) (targetOf c) with
  | none => exact ⟨rfl, rfl, undisturbed, stopped _ _, ahead, swift, rfl⟩
  | some fault => exact ⟨rfl, rfl, undisturbed, stopped _ _, ahead, swift, rfl⟩

theorem Still.answer (permanent : ∀ f ∈ faults, f.left = none) (still : w.Still faults)
    (prompt : Prompt r) :
    (World.answer r w).1 = (w.scene.answer faults r).1 ∧
      (World.answer r w).2.scene = (w.scene.answer faults r).2 ∧
        (World.answer r w).2.Still faults := by
  cases r with
  | call c => exact still.answerCall permanent c
  | detect => exact prompt.elim
  | look => exact ⟨rfl, rfl, still⟩
  | revise | log =>
    exact ⟨rfl, rfl, still.undisturbed, still.stop, still.ahead, still.swift, still.faults⟩
  | stopRequested => exact ⟨still.stopRequested, rfl, still⟩
  | limitWork limit =>
    refine ⟨rfl, rfl, still.undisturbed, still.stop, fun deadline mem => ?_, still.swift, still.faults⟩
    obtain ⟨n, limited, rfl⟩ := Option.map_eq_some_iff.mp mem
    have := prompt n limited
    change w.now < w.now + n
    omega
  | emit event =>
    unfold World.answer addEvent
    dsimp only
    split
    all_goals exact ⟨rfl, rfl, still.undisturbed, still.stop, still.ahead, still.swift, still.faults⟩

theorem Still.run (permanent : ∀ f ∈ faults, f.left = none) (still : w.Still faults)
    (prompt : Asks (S := signature) Prompt p) :
    (w.run p).1 = (w.scene.run faults p).1 ∧ (w.run p).2.scene = (w.scene.run faults p).2 := by
  induction p generalizing w with
  | done a => exact ⟨rfl, rfl⟩
  | ask r next ih =>
    obtain ⟨reply, scene, still⟩ := still.answer permanent prompt.1
    have rest := ih (World.answer r w).1 still (prompt.2 _)
    rw [scene] at rest
    change (World.run (next (World.answer r w).1) (World.answer r w).2).1 = _ ∧
      (World.run (next (World.answer r w).1) (World.answer r w).2).2.scene = _
    rw [rest.1, rest.2, reply]
    exact ⟨rfl, rfl⟩

end Simulation.World

end AddressSync
