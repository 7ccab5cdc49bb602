import AddressSync.Program

/-! What can come of a program where the surroundings are free in how they answer. A reaction says
which answers a request may get in a state, what is noted of it, and which states may follow. A run
collects these notes in their order, so that a statement about all notes of all runs is one about
every instant of every run. -/

namespace AddressSync.Program

variable {S : Signature} {α β σ ε : Type}

/-- The answers that a request may get in a state, with the notes taken and the state after it. -/
abbrev Reaction (S : Signature) (σ ε : Type) :=
  σ → (r : S.Request) → S.Answer r → List ε → σ → Prop

inductive Runs (react : Reaction S σ ε) : Program S α → σ → List ε → α → σ → Prop
  | done (a : α) (s : σ) : Runs react (.done a) s [] a s
  | ask {r : S.Request} {next : S.Answer r → Program S α} {s s' s'' : σ} {x : S.Answer r}
      {es es' : List ε} {a : α} (answered : react s r x es s')
      (rest : Runs react (next x) s' es' a s'') : Runs react (.ask r next) s (es ++ es') a s''

/-- Every run of the program from the state ends as `post` says. -/
def Ensures (react : Reaction S σ ε) (p : Program S α) (s : σ)
    (post : List ε → α → σ → Prop) : Prop :=
  ∀ es a s', Runs react p s es a s' → post es a s'

variable {react : Reaction S σ ε}

theorem ensures_runs {p : Program S α} {s : σ} : Ensures react p s (Runs react p s) :=
  fun _ _ _ run => run

theorem Ensures.mono {p : Program S α} {s : σ} {post weaker : List ε → α → σ → Prop}
    (h : Ensures react p s post) (weaken : ∀ es a s', post es a s' → weaker es a s') :
    Ensures react p s weaker :=
  fun es a s' run => weaken es a s' (h es a s' run)

theorem Ensures.and {p : Program S α} {s : σ} {post post' : List ε → α → σ → Prop}
    (h : Ensures react p s post) (h' : Ensures react p s post') :
    Ensures react p s fun es a s' => post es a s' ∧ post' es a s' :=
  fun es a s' run => ⟨h es a s' run, h' es a s' run⟩

theorem Runs.bind {p : Program S α} {f : α → Program S β} {s s' s'' : σ} {es es' : List ε} {a : α}
    {b : β} (first : Runs react p s es a s') (rest : Runs react (f a) s' es' b s'') :
    Runs react (p >>= f) s (es ++ es') b s'' := by
  induction first with
  | done a s => exact rest
  | ask answered _ ih =>
    rw [List.append_assoc]
    exact .ask answered (ih rest)

theorem runs_bind_iff {p : Program S α} {f : α → Program S β} {s s'' : σ} {es : List ε} {b : β} :
    Runs react (p >>= f) s es b s'' ↔
      ∃ es₁ es₂ a s', es = es₁ ++ es₂ ∧ Runs react p s es₁ a s' ∧ Runs react (f a) s' es₂ b s'' := by
  constructor
  · intro run
    induction p generalizing s es with
    | done a => exact ⟨[], es, a, s, rfl, .done a s, run⟩
    | ask r next ih =>
      cases run with
      | ask answered rest =>
        obtain ⟨es₁, es₂, a, s', rfl, first, last⟩ := ih _ rest
        exact ⟨_, es₂, a, s', (List.append_assoc ..).symm, .ask answered first, last⟩
  · rintro ⟨es₁, es₂, a, s', rfl, first, last⟩
    exact first.bind last

@[simp] theorem ensures_pure_iff {a : α} {s : σ} {post : List ε → α → σ → Prop} :
    Ensures react (pure a : Program S α) s post ↔ post [] a s := by
  constructor
  · exact fun h => h [] a s (.done a s)
  · intro h es b s' run
    cases run
    exact h

theorem ensures_bind_iff {p : Program S α} {f : α → Program S β} {s : σ}
    {post : List ε → β → σ → Prop} :
    Ensures react (p >>= f) s post ↔ Ensures react p s fun es a s' =>
      Ensures react (f a) s' fun es' b s'' => post (es ++ es') b s'' := by
  constructor
  · intro h es a s' first es' b s'' rest
    exact h _ b s'' (first.bind rest)
  · intro h es b s'' run
    obtain ⟨es₁, es₂, a, s', rfl, first, rest⟩ := runs_bind_iff.mp run
    exact h es₁ a s' first es₂ b s'' rest

theorem Ensures.bind {p : Program S α} {f : α → Program S β} {s : σ}
    {middle : List ε → α → σ → Prop} {post : List ε → β → σ → Prop}
    (first : Ensures react p s middle) (rest : ∀ es a s', middle es a s' →
      Ensures react (f a) s' fun es' b s'' => post (es ++ es') b s'') :
    Ensures react (p >>= f) s post :=
  ensures_bind_iff.mpr (first.mono rest)

theorem ensures_perform_bind_iff {r : S.Request} {f : S.Answer r → Program S β} {s : σ}
    {post : List ε → β → σ → Prop} :
    Ensures react (perform r >>= f) s post ↔ ∀ x es s', react s r x es s' →
      Ensures react (f x) s' fun es' b s'' => post (es ++ es') b s'' := by
  constructor
  · intro h x es s' answered es' b s'' rest
    exact h _ b s'' (.ask answered rest)
  · intro h es b s'' run
    cases run with
    | ask answered rest => exact h _ _ _ answered _ b s'' rest

theorem exists_run (answered : ∀ (s : σ) (r : S.Request), ∃ x es s', react s r x es s')
    (p : Program S α) (s : σ) : ∃ es a s', Runs react p s es a s' := by
  induction p generalizing s with
  | done a => exact ⟨[], a, s, .done a s⟩
  | ask r next ih =>
    obtain ⟨x, es, s', first⟩ := answered s r
    obtain ⟨es', a, s'', rest⟩ := ih x s'
    exact ⟨es ++ es', a, s'', .ask first rest⟩

def trace {τ : Type} (answer : (r : S.Request) → τ → S.Answer r × τ)
    (tell : (r : S.Request) → τ → List ε) : Program S α → τ → List ε
  | .done _, _ => []
  | .ask r next, t => tell r t ++ (next (answer r t).1).trace answer tell (answer r t).2

theorem runs_trace {τ : Type} {answer : (r : S.Request) → τ → S.Answer r × τ}
    {tell : (r : S.Request) → τ → List ε} (view : τ → σ) (keeps : τ → Prop)
    (kept : ∀ r t, keeps t → keeps (answer r t).2)
    (allowed : ∀ r t, keeps t →
      react (view t) r (answer r t).1 (tell r t) (view (answer r t).2))
    (p : Program S α) (t : τ) (h : keeps t) :
    Runs react p (view t) (p.trace answer tell t) (p.run answer t).1
      (view (p.run answer t).2) := by
  induction p generalizing t with
  | done a => exact .done a _
  | ask r next ih => exact .ask (allowed r t h) (ih (answer r t).1 (answer r t).2 (kept r t h))

end AddressSync.Program
