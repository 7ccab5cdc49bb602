import AddressSync.Proofs.Provider.Records
import AddressSync.Proofs.Surroundings.Still

/-! Two programs side by side, each in a scene of its own where time stands still: what is related when
they begin, and their results, are related when they end. -/

namespace AddressSync

open Sync Simulation Program

inductive Echo {α β : Type} (Q : α → β → Prop) : Except Failure α → Except Failure β → Prop
  | ok {a : α} {b : β} (related : Q a b) : Echo Q (.ok a) (.ok b)
  | error (e e' : Failure) : Echo Q (.error e) (.error e')

namespace Sync

variable {α α' β β' : Type} {F F' : List Fault} {I : Scene → Scene → Prop} {Q : α → α' → Prop}
  {R : β → β' → Prop} {p : Sync α} {p' : Sync α'} {f : α → Sync β} {f' : α' → Sync β'}

/-- The one program among the faults `F` and the other among `F'` come to related results and scenes. -/
def Level (F F' : List Fault) (I : Scene → Scene → Prop) (Q : α → α' → Prop) (p : Sync α)
    (p' : Sync α') (s s' : Scene) : Prop :=
  Q (s.run F p).1 (s'.run F' p').1 ∧ I (s.run F p).2 (s'.run F' p').2

def Abreast (F F' : List Fault) (I : Scene → Scene → Prop) (Q : α → α' → Prop) (p : Sync α)
    (p' : Sync α') : Prop :=
  ∀ s s', I s s' → Level F F' I Q p p' s s'

theorem abreast_pure {a : α} {a' : α'} (related : Q a a') :
    Abreast F F' I Q (pure a : Sync α) (pure a') :=
  fun _ _ start => ⟨related, start⟩

theorem level_of_ensures {s s' : Scene} {post : List Moment → α → Scene → Prop}
    {post' : List Moment → α' → Scene → Prop} (h : Ensures p s post) (h' : Ensures p' s' post')
    (related : ∀ es es' a a' u u', u.now = s.now → u'.now = s'.now → post es a u → post' es' a' u' →
      Q a a' ∧ I u u') :
    Level F F' I Q p p' s s' := by
  obtain ⟨es, left⟩ := Scene.run_of_ensures F h
  obtain ⟨es', right⟩ := Scene.run_of_ensures F' h'
  exact related es es' _ _ _ _ (s.run_now F p) (s'.run_now F' p') left right

theorem Level.bind {J : Scene → Scene → Prop} {s s' : Scene} (first : Level F F' I Q p p' s s')
    (rest : ∀ a a' t t', Q a a' → I t t' → Level F F' J R (f a) (f' a') t t') :
    Level F F' J R (p >>= f) (p' >>= f') s s' := by
  unfold Level
  rw [Scene.run_bind, Scene.run_bind]
  exact rest _ _ _ _ first.1 first.2

theorem Abreast.bind (first : Abreast F F' I Q p p')
    (rest : ∀ a a', Q a a' → Abreast F F' I R (f a) (f' a')) :
    Abreast F F' I R (p >>= f) (p' >>= f') := by
  intro s s' start
  exact (first s s' start).bind fun a a' t t' related => rest a a' related t t'

theorem Abreast.mono {Q' : α → α' → Prop} (h : Abreast F F' I Q p p')
    (weaken : ∀ a a', Q a a' → Q' a a') : Abreast F F' I Q' p p' :=
  fun s s' start => ⟨weaken _ _ (h s s' start).1, (h s s' start).2⟩

section

variable {q q' : Sync Unit} {g : Unit → Sync α} {g' : Unit → Sync α'} (silent : Silent q)
  (silent' : Silent q') (rest : Abreast F F' I Q (g ()) (g' ()))

include silent silent' rest

theorem abreast_silent : Abreast F F' I Q (q >>= g) (q' >>= g') := by
  intro s s' start
  unfold Level
  rw [Scene.run_bind, Scene.run_bind, Scene.run_silent silent, Scene.run_silent silent']
  exact rest s s' start

theorem abreast_guard {c c' : Prop} [Decidable c] [Decidable c'] :
    Abreast F F' I Q (if c then q >>= g else g ()) (if c' then q' >>= g' else g' ()) := by
  intro s s' start
  have left : s.run F (if c then q >>= g else g ()) = s.run F (g ()) := by
    split
    · rw [Scene.run_bind, Scene.run_silent silent]
    · rfl
  have right : s'.run F' (if c' then q' >>= g' else g' ()) = s'.run F' (g' ()) := by
    split
    · rw [Scene.run_bind, Scene.run_silent silent']
    · rfl
  unfold Level
  rw [left, right]
  exact rest s s' start

end

theorem level_unless_stopped {stopped rest : Sync α} {stopped' rest' : Sync α'} {s s' : Scene}
    (go : Level F F' I Q rest rest' s s') :
    Level F F' I Q (stopRequested >>= fun stop => if stop then stopped else rest)
      (stopRequested >>= fun stop => if stop then stopped' else rest') s s' :=
  go

theorem abreast_unless_stopped {stopped rest : Sync α} {stopped' rest' : Sync α'}
    (go : Abreast F F' I Q rest rest') :
    Abreast F F' I Q (stopRequested >>= fun stop => if stop then stopped else rest)
      (stopRequested >>= fun stop => if stop then stopped' else rest') :=
  fun s s' start => level_unless_stopped (go s s' start)

theorem level_look {s s' : Scene} {g : Nat × Caches → Sync α} {g' : Nat × Caches → Sync α'}
    (rest : Level F F' I Q (g (s.now, s.caches)) (g' (s'.now, s'.caches)) s s') :
    Level F F' I Q (look >>= g) (look >>= g') s s' :=
  rest

theorem abreast_emit {event event' : Event} {g : Unit → Sync α} {g' : Unit → Sync α'}
    (rest : Abreast F F' I Q (g ()) (g' ())) :
    Abreast F F' I Q (emit event >>= g) (emit event' >>= g') :=
  rest

theorem abreast_within {limit : Nat} (work : Abreast F F' I Q p p') :
    Abreast F F' I Q (within limit p) (within limit p') := by
  have ended : Abreast F F' I Q (p >>= fun a => limitWork none >>= fun _ => pure a)
      (p' >>= fun a => limitWork none >>= fun _ => pure a) :=
    work.bind fun a a' related s s' start => ⟨related, start⟩
  exact ended

theorem abreast_revise {change change' : Nat → Caches → Caches} {g : Unit → Sync α}
    {g' : Unit → Sync α'} (kept : ∀ s s', I s s' →
      I { s with caches := change s.now s.caches } { s' with caches := change' s'.now s'.caches })
    (rest : Abreast F F' I Q (g ()) (g' ())) :
    Abreast F F' I Q (revise change >>= g) (revise change' >>= g') :=
  fun s s' start => rest _ _ (kept s s' start)

variable {c c' : Call} {g : Except Failure c.Reply → Sync α} {g' : Except Failure c'.Reply → Sync α'}

/-- Two calls with one fate: both are performed, or both fail with or without effect. -/
theorem level_call {s s' : Scene}
    (fated : fate? F (kindOf c) (targetOf c) = fate? F' (kindOf c') (targetOf c'))
    (performed : Level F F' I Q (g (s.provider.perform c).1) (g' (s'.provider.perform c').1)
      { s with provider := (s.provider.perform c).2 }
      { s' with provider := (s'.provider.perform c').2 })
    (unheard : ∀ e e', Level F F' I Q (g (.error e)) (g' (.error e'))
      { s with provider := (s.provider.perform c).2 }
      { s' with provider := (s'.provider.perform c').2 })
    (lost : ∀ e e', Level F F' I Q (g (.error e)) (g' (.error e')) s s') :
    Level F F' I Q (call c >>= g) (call c' >>= g') s s' := by
  have met : s.run F (call c >>= g) = (s.meet F c).2.run F (g (s.meet F c).1) := rfl
  have met' : s'.run F' (call c' >>= g') = (s'.meet F' c').2.run F' (g' (s'.meet F' c').1) := rfl
  unfold Level
  rw [met, met', Scene.meet, Scene.meet]
  unfold fate? at fated
  cases struck : struck? F (kindOf c) (targetOf c) with
  | none =>
    rw [struck] at fated
    rw [Option.map_eq_none_iff.mp fated.symm]
    exact performed
  | some fault =>
    rw [struck] at fated
    obtain ⟨fault', struck', same⟩ := Option.map_eq_some_iff.mp fated.symm
    rw [struck']
    dsimp only
    rw [same]
    cases fault.effective with
    | true => exact unheard fault.failure fault'.failure
    | false => exact lost fault.failure fault'.failure

end Sync

namespace Scene

variable {c : Call} {ν : Type} {cached : Nat → Caches → Option ν} {hit : Sync Unit}
  {read : c.Reply → ν} {store : ν → Nat → Caches → Caches}

theorem run_fetch (faults : List Fault) (silent : Silent hit) (reads : c.isMutation = false)
    (s : Scene) :
    s.run faults (Directory.fetch c cached hit read store) =
      match cached s.now s.caches, struck? faults (kindOf c) (targetOf c), (s.provider.perform c).1 with
      | some value, _, _ => (.ok value, s)
      | none, some fault, _ => (.error fault.failure, s)
      | none, none, .error e => (.error e, s)
      | none, none, .ok reply =>
        (.ok (read reply), { s with caches := store (read reply) s.now s.caches }) := by
  have looked : s.run faults look = ((s.now, s.caches), s) := rfl
  have called : s.run faults (call c) = s.meet faults c := rfl
  rw [Directory.fetch, run_bind, looked]
  dsimp only
  cases cached s.now s.caches with
  | some value =>
    dsimp only
    rw [run_bind, run_silent silent]
    rfl
  | none =>
    dsimp only
    rw [run_bind, called, meet, Provider.perform_of_reads reads]
    cases struck? faults (kindOf c) (targetOf c) with
    | some fault =>
      dsimp only
      rw [ite_self]
      rfl
    | none => cases (s.provider.perform c).1 <;> rfl

end Scene

namespace Directory

variable {F F' : List Fault} {I : Scene → Scene → Prop} {c c' : Call}

theorem abreast_fetch {ν ν' : Type} {Q : ν → ν' → Prop} {cached : Nat → Caches → Option ν}
    {cached' : Nat → Caches → Option ν'} {hit hit' : Sync Unit} {read : c.Reply → ν}
    {read' : c'.Reply → ν'} {store : ν → Nat → Caches → Caches}
    {store' : ν' → Nat → Caches → Caches} (silent : Silent hit) (silent' : Silent hit')
    (reads : c.isMutation = false) (reads' : c'.isMutation = false)
    (fated : fate? F (kindOf c) (targetOf c) = fate? F' (kindOf c') (targetOf c'))
    (held : ∀ s s', I s s' → Option.Rel Q (cached s.now s.caches) (cached' s'.now s'.caches))
    (told : ∀ s s', I s s' →
      Echo Q ((s.provider.perform c).1.map read) ((s'.provider.perform c').1.map read'))
    (stored : ∀ s s' v v', I s s' → Q v v' → I { s with caches := store v s.now s.caches }
      { s' with caches := store' v' s'.now s'.caches }) :
    Abreast F F' I (Echo Q) (fetch c cached hit read store) (fetch c' cached' hit' read' store') := by
  intro s s' start
  have held := held s s' start
  have told := told s s' start
  unfold fate? at fated
  unfold Level
  rw [Scene.run_fetch F silent reads, Scene.run_fetch F' silent' reads']
  rcases found : cached s.now s.caches with _ | v <;>
    rcases found' : cached' s'.now s'.caches with _ | v' <;> rw [found, found'] at held
  · rcases struck : struck? F (kindOf c) (targetOf c) with _ | fault <;>
      rcases struck' : struck? F' (kindOf c') (targetOf c') with _ | fault' <;>
        rw [struck, struck'] at fated
    · rcases replied : (s.provider.perform c).1 with e | x <;>
        rcases replied' : (s'.provider.perform c').1 with e' | x' <;> rw [replied, replied'] at told
      · exact ⟨.error e e', start⟩
      · cases told
      · cases told
      · cases told with
        | ok same => exact ⟨.ok same, stored s s' _ _ start same⟩
    · cases fated
    · cases fated
    · exact ⟨.error _ _, start⟩
  · cases held
  · cases held
  · cases held with
    | some same => exact ⟨.ok same, start⟩

theorem abreast_change {Q : c.Reply → c'.Reply → Prop} {patch : c.Reply → Nat → Caches → Caches}
    {patch' : c'.Reply → Nat → Caches → Caches} {forget forget' : Caches → Caches}
    (fated : fate? F (kindOf c) (targetOf c) = fate? F' (kindOf c') (targetOf c'))
    (told : ∀ s s', I s s' → Echo Q (s.provider.perform c).1 (s'.provider.perform c').1)
    (patched : ∀ s s' x x', I s s' → (s.provider.perform c).1 = .ok x →
      (s'.provider.perform c').1 = .ok x' → Q x x' →
        I { s with provider := (s.provider.perform c).2, caches := patch x s.now s.caches }
          { s' with provider := (s'.provider.perform c').2, caches := patch' x' s'.now s'.caches })
    (unheard : ∀ s s', I s s' →
      I { s with provider := (s.provider.perform c).2, caches := forget s.caches }
        { s' with provider := (s'.provider.perform c').2, caches := forget' s'.caches })
    (lost : ∀ s s', I s s' →
      I { s with caches := forget s.caches } { s' with caches := forget' s'.caches }) :
    Abreast F F' I (Echo Q) (change c patch forget) (change c' patch' forget') := by
  intro s s' start
  refine level_call fated ?_ (fun e e' => ⟨.error e e', unheard s s' start⟩)
    fun e e' => ⟨.error e e', lost s s' start⟩
  have told := told s s' start
  rcases replied : (s.provider.perform c).1 with e | x <;>
    rcases replied' : (s'.provider.perform c').1 with e' | x' <;> rw [replied, replied'] at told
  · exact ⟨.error e e', unheard s s' start⟩
  · cases told
  · cases told
  · cases told with
    | ok same => exact ⟨.ok same, patched s s' x x' start replied replied' same⟩

end Directory

end AddressSync
