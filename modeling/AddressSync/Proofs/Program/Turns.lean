import AddressSync.Proofs.Program.Runs
import Mathlib.Logic.Function.Basic

/-! Programs that take turns. Each turn is one request of one of the programs, so that whatever the
others do falls between two of its requests. Notes are taken of who they are about. -/

namespace AddressSync.Program

variable {S : Signature} {α σ ε ι : Type} [DecidableEq ι]

/-- All programs are run to their ends, each of them in its own order, the turns falling in any way. -/
inductive Turns (react : Reaction S σ ε) :
    (ι → Program S α) → σ → List (ι × ε) → (ι → α) → σ → Prop
  | done (a : ι → α) (s : σ) : Turns react (fun i => .done (a i)) s [] a s
  | turn {p : ι → Program S α} {r : S.Request} {next : S.Answer r → Program S α} {s s' s'' : σ}
      {x : S.Answer r} {es : List ε} {es' : List (ι × ε)} {a : ι → α} (i : ι)
      (asks : p i = .ask r next) (answered : react s r x es s')
      (rest : Turns react (Function.update p i (next x)) s' es' a s'') :
      Turns react p s (es.map (i, ·) ++ es') a s''

variable {react : Reaction S σ ε} {p : ι → Program S α} {s s' : σ} {es : List (ι × ε)} {a : ι → α}

/-- What each turn keeps true of the programs that are left, the state and the notes so far is true
of the end. -/
theorem Turns.preserves {I : (ι → Program S α) → σ → List (ι × ε) → Prop}
    (run : Turns react p s es a s')
    (turn : ∀ p s past i r next x es s', I p s past → p i = .ask r next → react s r x es s' →
      I (Function.update p i (next x)) s' (past ++ es.map (i, ·)))
    {past : List (ι × ε)} (start : I p s past) : I (fun i => .done (a i)) s' (past ++ es) := by
  induction run generalizing past with
  | done a s =>
    rw [List.append_nil]
    exact start
  | turn i asks answered _ ih =>
    rw [← List.append_assoc]
    exact ih (turn _ _ past i _ _ _ _ _ start asks answered)

def result? : Program S α → Option α
  | .done a => some a
  | .ask .. => none

theorem eq_done_of_result? {p : Program S α} {a : α} (result : p.result? = some a) : p = .done a := by
  cases p with
  | done b => rw [Option.some.inj result]
  | ask r next => cases result

def inTurns (answer : (r : S.Request) → σ → S.Answer r × σ) (tell : S.Request → List ε) :
    List ι → (ι → Program S α) → σ → (ι → Program S α) × List (ι × ε) × σ
  | [], p, s => (p, [], s)
  | i :: order, p, s =>
    match p i with
    | .done _ => inTurns answer tell order p s
    | .ask r next =>
      let (x, s) := answer r s
      let (p, es, s) := inTurns answer tell order (Function.update p i (next x)) s
      (p, (tell r).map (i, ·) ++ es, s)

theorem turns_inTurns {answer : (r : S.Request) → σ → S.Answer r × σ} {tell : S.Request → List ε}
    (allowed : ∀ r s, react s r (answer r s).1 (tell r) (answer r s).2) (order : List ι)
    (ends : ∀ i, ((inTurns answer tell order p s).1 i).result? = some (a i)) :
    Turns react p s (inTurns answer tell order p s).2.1 a (inTurns answer tell order p s).2.2 := by
  induction order generalizing p s with
  | nil =>
    have finished : p = fun i => .done (a i) := funext fun i => eq_done_of_result? (ends i)
    rw [finished]
    exact .done a s
  | cons i order ih =>
    rw [inTurns] at ends ⊢
    cases asks : p i with
    | done b =>
      rw [asks] at ends
      exact ih ends
    | ask r next =>
      rw [asks] at ends
      exact .turn i asks (allowed r s) (ih ends)

end AddressSync.Program
