import AddressSync.Proofs.Program.Asks
import AddressSync.Simulation.Provider

/-! Surroundings in which nobody but the program changes what the provider holds. Everything else
is left open: how long a call takes, whether it fails, whether a failed call did its work, when a
request to stop comes, and what the address source says. -/

namespace AddressSync

open Simulation

/-- How a call may end: with the provider's own reply, or with a failure, the work then being done
or not. -/
inductive Simulation.Provider.Ends (p : Provider) (c : Call) :
    Except Failure c.Reply → Provider → Prop
  | performed : Ends p c (p.perform c).1 (p.perform c).2
  | lost (e : Failure) : Ends p c (.error e) p
  | unheard (e : Failure) : Ends p c (.error e) (p.perform c).2

structure Scene where
  now : Nat
  provider : Provider
  caches : Caches

/-- What is noted of a run. The provider changes at calls only, so that the states before and after
each call are those of all instants. -/
inductive Moment
  | called (c : Call) (reply : Except Failure c.Reply) (before after : Provider)
  | detected (family : Family) (answer : Option (Except Failure Address))
  | stopAsked (answer : Bool)
  | told (event : Event) (provider : Provider)

namespace Moment

def Mutates : Moment → Prop
  | .called c .. => c.isMutation = true
  | .detected .. | .stopAsked _ | .told .. => False

def Fails : Moment → Prop
  | .called _ reply _ _ => reply.isOk = false
  | .detected .. | .stopAsked _ | .told .. => False

def Throughout (P : Provider → Prop) : Moment → Prop
  | .called _ _ before after => P before ∧ P after
  | .told _ provider => P provider
  | .detected .. | .stopAsked _ => True

@[simp] def Tells : Moment → Prop
  | .told .. => True
  | .called .. | .detected .. | .stopAsked _ => False

end Moment

def Untold (es : List Moment) : Prop := ∀ m ∈ es, ¬ m.Tells

@[simp] theorem untold_nil : Untold [] := fun _ mem => absurd mem List.not_mem_nil

@[simp] theorem untold_cons {m : Moment} {es : List Moment} :
    Untold (m :: es) ↔ ¬ m.Tells ∧ Untold es :=
  List.forall_mem_cons

@[simp] theorem untold_append {es es' : List Moment} :
    Untold (es ++ es') ↔ Untold es ∧ Untold es' :=
  List.forall_mem_append

/-- The answers that a request may get in a scene. Time may pass wherever it can be told. -/
def Scene.react : Program.Reaction Sync.signature Scene Moment
  | s, .call c, reply, es, s' =>
    s.now ≤ s'.now ∧ s'.caches = s.caches ∧ s.provider.Ends c reply s'.provider ∧
      es = [.called c reply s.provider s'.provider]
  | s, .detect family _, answer, es, s' =>
    s.now ≤ s'.now ∧ s' = { s with now := s'.now } ∧ es = [.detected family answer]
  | s, .look, seen, es, s' =>
    s.now ≤ s'.now ∧ s' = { s with now := s'.now } ∧ seen = (s'.now, s.caches) ∧ es = []
  | s, .revise change, _, es, s' =>
    s.now ≤ s'.now ∧ s' = { s with now := s'.now, caches := change s'.now s.caches } ∧ es = []
  | s, .stopRequested, answer, es, s' => s' = s ∧ es = [.stopAsked answer]
  | s, .emit event, _, es, s' => s' = s ∧ es = [.told event s.provider]
  | s, .limitWork _, _, es, s' | s, .log _, _, es, s' => s' = s ∧ es = []

theorem Scene.react_total (s : Scene) (r : Sync.Request) : ∃ x es s', Scene.react s r x es s' := by
  have now := Nat.le_refl s.now
  cases r with
  | call c => exact ⟨_, _, ⟨s.now, (s.provider.perform c).2, s.caches⟩, now, rfl, .performed, rfl⟩
  | detect family limit => exact ⟨none, _, s, now, rfl, rfl⟩
  | look => exact ⟨_, _, s, now, rfl, rfl, rfl⟩
  | revise change => exact ⟨(), _, ⟨s.now, s.provider, change s.now s.caches⟩, now, rfl, rfl⟩
  | stopRequested => exact ⟨false, _, s, rfl, rfl⟩
  | limitWork limit => exact ⟨(), _, s, rfl, rfl⟩
  | log line => exact ⟨(), _, s, rfl, rfl⟩
  | emit event => exact ⟨(), _, s, rfl, rfl⟩

namespace Sync

variable {α β : Type} {s : Scene} {post : List Moment → β → Scene → Prop}

abbrev Runs (p : Sync α) (s : Scene) (es : List Moment) (a : α) (s' : Scene) : Prop :=
  Program.Runs Scene.react p s es a s'

abbrev Ensures (p : Sync α) (s : Scene) (post : List Moment → α → Scene → Prop) : Prop :=
  Program.Ensures Scene.react p s post

theorem exists_run (p : Sync α) (s : Scene) : ∃ es a s', Runs p s es a s' :=
  Program.exists_run Scene.react_total p s

/-- Whatever is asked, either it is a call, or the provider stays as it is. -/
theorem react_cases {r : Request} {x : Answer r} {s s' : Scene} {es : List Moment}
    (answered : s.react r x es s') :
    (∃ c reply, s.provider.Ends c reply s'.provider ∧
      es = [.called c reply s.provider s'.provider]) ∨
    (s'.provider = s.provider ∧ ∀ m ∈ es, ∀ P, P s.provider → m.Throughout P) := by
  cases r with
  | call c => exact .inl ⟨c, x, answered.2.2.1, answered.2.2.2⟩
  | detect family limit =>
    obtain ⟨_, same, rfl⟩ := answered
    refine .inr ⟨by rw [same], fun m mem P _ => ?_⟩
    rw [List.mem_singleton.mp mem]
    trivial
  | look =>
    obtain ⟨_, same, _, rfl⟩ := answered
    exact .inr ⟨by rw [same], fun m mem => absurd mem List.not_mem_nil⟩
  | revise change =>
    obtain ⟨_, same, rfl⟩ := answered
    exact .inr ⟨by rw [same], fun m mem => absurd mem List.not_mem_nil⟩
  | stopRequested =>
    obtain ⟨rfl, rfl⟩ := answered
    refine .inr ⟨rfl, fun m mem P _ => ?_⟩
    rw [List.mem_singleton.mp mem]
    trivial
  | emit event =>
    obtain ⟨rfl, rfl⟩ := answered
    refine .inr ⟨rfl, fun m mem P holds => ?_⟩
    rw [List.mem_singleton.mp mem]
    exact holds
  | limitWork | log =>
    obtain ⟨rfl, rfl⟩ := answered
    exact .inr ⟨rfl, fun m mem => absurd mem List.not_mem_nil⟩

theorem Runs.later {p : Sync α} {s' : Scene} {es : List Moment} {a : α} (run : Runs p s es a s') :
    s.now ≤ s'.now := by
  induction run with
  | done a s => exact Nat.le_refl _
  | @ask r next s s₁ s₂ x es es' a answered rest ih =>
    refine Nat.le_trans ?_ ih
    cases r with
    | call | detect | look | revise => exact answered.1
    | stopRequested | limitWork | log | emit =>
      exact Nat.le_of_eq (congrArg Scene.now answered.1.symm)

theorem Runs.throughout {p : Sync α} {s' : Scene} {es : List Moment} {a : α} {P : Provider → Prop}
    (run : Runs p s es a s')
    (kept : ∀ p c reply p', Provider.Ends p c reply p' → P p → P p') (start : P s.provider) :
    P s'.provider ∧ ∀ m ∈ es, m.Throughout P := by
  induction run with
  | done a s => exact ⟨start, fun m mem => absurd mem List.not_mem_nil⟩
  | @ask r next s s₁ s₂ x es es' a answered rest ih =>
    have first : P s₁.provider ∧ ∀ m ∈ es, m.Throughout P := by
      rcases react_cases answered with ⟨c, reply, ends, rfl⟩ | ⟨same, moments⟩
      · have after := kept _ c _ _ ends start
        refine ⟨after, fun m mem => ?_⟩
        rw [List.mem_singleton.mp mem]
        exact ⟨start, after⟩
      · rw [same]
        exact ⟨start, fun m mem => moments m mem P start⟩
    obtain ⟨last, moments⟩ := ih first.1
    refine ⟨last, fun m mem => ?_⟩
    rcases List.mem_append.mp mem with mem | mem
    · exact first.2 m mem
    · exact moments m mem

theorem ensures_call_iff {c : Call} {f : Except Failure c.Reply → Sync β} :
    Ensures (call c >>= f) s post ↔ ∀ t reply p, s.now ≤ t → s.provider.Ends c reply p →
      Ensures (f reply) ⟨t, p, s.caches⟩ fun es => post (.called c reply s.provider p :: es) := by
  refine Program.ensures_perform_bind_iff.trans ⟨fun h t reply p later ends => ?_, ?_⟩
  · exact h reply _ ⟨t, p, s.caches⟩ ⟨later, rfl, ends, rfl⟩
  · rintro h reply es ⟨t, p, caches⟩ ⟨later, rfl, ends, rfl⟩
    exact h t reply p later ends

theorem ensures_look_iff {f : Nat × Caches → Sync β} :
    Ensures (look >>= f) s post ↔
      ∀ t, s.now ≤ t → Ensures (f (t, s.caches)) { s with now := t } post := by
  refine Program.ensures_perform_bind_iff.trans ⟨fun h t later => ?_, ?_⟩
  · exact h _ [] { s with now := t } ⟨later, rfl, rfl, rfl⟩
  · rintro h seen es s' ⟨later, same, rfl, rfl⟩
    rw [same]
    exact h _ later

theorem ensures_revise_iff {change : Nat → Caches → Caches} {f : Unit → Sync β} :
    Ensures (revise change >>= f) s post ↔ ∀ t, s.now ≤ t →
      Ensures (f ()) { s with now := t, caches := change t s.caches } post := by
  refine Program.ensures_perform_bind_iff.trans ⟨fun h t later => ?_, ?_⟩
  · exact h () [] { s with now := t, caches := change t s.caches } ⟨later, rfl, rfl⟩
  · rintro h x es s' ⟨later, same, rfl⟩
    rw [same]
    exact h _ later

theorem ensures_stopRequested_iff {f : Bool → Sync β} :
    Ensures (stopRequested >>= f) s post ↔
      ∀ answer, Ensures (f answer) s fun es => post (.stopAsked answer :: es) := by
  refine Program.ensures_perform_bind_iff.trans ⟨fun h answer => ?_, ?_⟩
  · exact h answer _ s ⟨rfl, rfl⟩
  · rintro h answer es s' ⟨rfl, rfl⟩
    exact h answer

theorem ensures_log_iff {level : Log.Level} {message : String} {fields : List (String × Log.Field)}
    {f : Unit → Sync β} : Ensures (log level message fields >>= f) s post ↔ Ensures (f ()) s post := by
  refine Program.ensures_perform_bind_iff.trans ⟨fun h => h () [] s ⟨rfl, rfl⟩, ?_⟩
  rintro h x es s' ⟨rfl, rfl⟩
  exact h

theorem ensures_emit_iff {event : Event} {f : Unit → Sync β} :
    Ensures (emit event >>= f) s post ↔
      Ensures (f ()) s fun es => post (.told event s.provider :: es) := by
  refine Program.ensures_perform_bind_iff.trans ⟨fun h => h () _ s ⟨rfl, rfl⟩, ?_⟩
  rintro h x es s' ⟨rfl, rfl⟩
  exact h

theorem ensures_limitWork_iff {limit : Option Nat} {f : Unit → Sync β} :
    Ensures (limitWork limit >>= f) s post ↔ Ensures (f ()) s post := by
  refine Program.ensures_perform_bind_iff.trans ⟨fun h => h () [] s ⟨rfl, rfl⟩, ?_⟩
  rintro h x es s' ⟨rfl, rfl⟩
  exact h

theorem ensures_within {limit : Nat} {p : Sync β} (h : Ensures p s post) :
    Ensures (within limit p) s post := by
  refine ensures_limitWork_iff.mpr (h.bind fun es a s' done => ?_)
  refine ensures_limitWork_iff.mpr (Program.ensures_pure_iff.mpr ?_)
  rwa [List.append_nil]

theorem Silent.ensures_bind {p : Sync Unit} {f : Unit → Sync β} (silent : Silent p)
    (rest : Ensures (f ()) s post) : Ensures (p >>= f) s post := by
  refine Program.Ensures.bind (silent.ensures (fun _ _ _ _ _ h => h.symm) s) ?_
  rintro es a s' ⟨rfl, rfl⟩
  exact rest

theorem Silent.ensures_guard {c : Prop} [Decidable c] {p : Sync Unit} {f : Unit → Sync β}
    (silent : Silent p) (rest : Ensures (f ()) s post) :
    Ensures (if c then p >>= f else f ()) s post := by
  split
  · exact silent.ensures_bind rest
  · exact rest

end Sync

end AddressSync
