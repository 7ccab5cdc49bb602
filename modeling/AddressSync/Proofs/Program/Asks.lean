import AddressSync.Proofs.Program.Runs
import AddressSync.Sync

/-! What a program may come to ask for, whatever it is answered. This is read off the program
itself, and says of its runs in all surroundings what they leave alone. -/

namespace AddressSync

namespace Program

variable {S : Signature} {α β γ σ ε : Type} {P Q : S.Request → Prop} {react : Reaction S σ ε}
  {p : Program S α} {s s' : σ} {es : List ε} {a : α}

def Asks (P : S.Request → Prop) : Program S α → Prop
  | .done _ => True
  | .ask r next => P r ∧ ∀ x, (next x).Asks P

theorem asks_pure (a : α) : (pure a : Program S α).Asks P := trivial

theorem asks_perform {r : S.Request} (h : P r) : (perform r).Asks P := ⟨h, fun _ => trivial⟩

theorem Asks.bind {f : α → Program S β} (first : p.Asks P) (rest : ∀ a, (f a).Asks P) :
    (p >>= f).Asks P := by
  induction p with
  | done a => exact rest a
  | ask r next ih => exact ⟨first.1, fun x => ih x (first.2 x)⟩

theorem Asks.mono (h : p.Asks P) (weaken : ∀ r, P r → Q r) : p.Asks Q := by
  induction p with
  | done a => trivial
  | ask r next ih => exact ⟨weaken r h.1, fun x => ih x (h.2 x)⟩

theorem asks_forM {f : γ → Program S PUnit} (each : ∀ x, (f x).Asks P) (xs : List γ) :
    (xs.forM f).Asks P := by
  induction xs with
  | nil => exact asks_pure _
  | cons x xs ih => exact (each x).bind fun _ => ih

/-- A relation between the ends of a run that no answer to these requests breaks. -/
theorem Asks.relates {R : σ → List ε → σ → Prop} (h : p.Asks P)
    (run : Runs react p s es a s') (refl : ∀ s, R s [] s)
    (step : ∀ s r x es s' es' s'', P r → react s r x es s' → R s' es' s'' →
      R s (es ++ es') s'') : R s es s' := by
  induction run with
  | done a s => exact refl s
  | ask answered _ ih => exact step _ _ _ _ _ _ _ h.1 answered (ih (h.2 _))

def Returns (P : α → Prop) : Program S α → Prop
  | .done a => P a
  | .ask _ next => ∀ x, (next x).Returns P

variable {R : α → Prop} {T : β → Prop}

theorem Returns.bind {f : α → Program S β} (rest : ∀ a, (f a).Returns T) : (p >>= f).Returns T := by
  induction p with
  | done a => exact rest a
  | ask r next ih => exact ih

theorem Returns.guard {c : Prop} [Decidable c] {p : Program S Unit} {f : Unit → Program S β}
    (rest : (f ()).Returns T) : (if c then p >>= f else f ()).Returns T := by
  split
  · exact .bind fun _ => rest
  · exact rest

theorem Returns.of_run (returns : p.Returns R) (run : Runs react p s es a s') : R a := by
  induction run with
  | done a s => exact returns
  | ask _ _ ih => exact ih (returns _)

end Program

namespace Sync

open Program

variable {α σ ε : Type} {react : Reaction signature σ ε} {p : Sync Unit}

def Silent (p : Sync Unit) : Prop := p.Asks fun r : Request => ∃ line, r = .log line

theorem silent_pure : Silent (pure ()) := asks_pure ()

theorem Silent.bind {f : Unit → Sync Unit} (first : Silent p) (rest : Silent (f ())) :
    Silent (p >>= f) :=
  Asks.bind first fun _ => rest

theorem Silent.guard {c : Prop} [Decidable c] {f : Unit → Sync Unit} (first : Silent p)
    (rest : Silent (f ())) : Silent (if c then p >>= f else f ()) := by
  split
  · exact first.bind rest
  · exact rest

theorem silent_log (level : Log.Level) (message : String) (fields : List (String × Log.Field)) :
    Silent (log level message fields) :=
  asks_perform ⟨_, rfl⟩

theorem silent_forM {γ : Type} {f : γ → Sync Unit} (each : ∀ x, Silent (f x)) (xs : List γ) :
    Silent (xs.forM f) :=
  asks_forM each xs

theorem Silent.ensures
    (logs : ∀ s line x es s', react s (.log line) x es s' → es = [] ∧ s' = s)
    (silent : Silent p) (s : σ) : Ensures react p s fun es _ s' => es = [] ∧ s' = s := by
  intro es a s' run
  refine Asks.relates (R := fun s es s' => es = [] ∧ s' = s) silent run (fun _ => ⟨rfl, rfl⟩) ?_
  rintro s _ x es s' es' s'' ⟨line, rfl⟩ answered ⟨rfl, kept⟩
  obtain ⟨rfl, rfl⟩ := logs s line x es s' answered
  exact ⟨rfl, kept⟩

end Sync

end AddressSync
