/-! Programs as data: a program is done with a result, or makes a request and goes on with the
answer. What the requests mean is left to those who run it, so one program can be run against any
surroundings, alone or in turns with others. -/

namespace AddressSync

structure Signature where
  Request : Type
  Answer : Request → Type

inductive Program (S : Signature) (α : Type)
  | done (result : α)
  | ask (request : S.Request) (next : S.Answer request → Program S α)

namespace Program

variable {S : Signature} {α β γ σ : Type}

def bind : Program S α → (α → Program S β) → Program S β
  | .done a, f => f a
  | .ask r next, f => .ask r fun answer => (next answer).bind f

instance : Monad (Program S) where
  pure := .done
  bind := Program.bind

def perform (r : S.Request) : Program S (S.Answer r) := .ask r .done

theorem bind_done (p : Program S α) : p.bind .done = p := by
  induction p with
  | done a => rfl
  | ask r next ih => simp only [bind]; congr 1; funext answer; exact ih answer

theorem bind_assoc (p : Program S α) (f : α → Program S β) (g : β → Program S γ) :
    (p.bind f).bind g = p.bind fun a => (f a).bind g := by
  induction p with
  | done a => rfl
  | ask r next ih => simp only [bind]; congr 1; funext answer; exact ih answer

instance : LawfulMonad (Program S) :=
  LawfulMonad.mk' _ bind_done (fun _ _ => rfl) bind_assoc

def run (answer : (r : S.Request) → σ → S.Answer r × σ) : Program S α → σ → α × σ
  | .done a, s => (a, s)
  | .ask r next, s => (next (answer r s).1).run answer (answer r s).2

def run? (answer : (r : S.Request) → σ → Option (S.Answer r × σ)) : Program S α → σ → Option (α × σ)
  | .done a, s => some (a, s)
  | .ask r next, s => (answer r s).bind fun (x, s) => (next x).run? answer s

@[simp] theorem run_pure (answer : (r : S.Request) → σ → S.Answer r × σ) (a : α) (s : σ) :
    (pure a : Program S α).run answer s = (a, s) := rfl

@[simp] theorem run_bind (answer : (r : S.Request) → σ → S.Answer r × σ) (p : Program S α)
    (f : α → Program S β) (s : σ) :
    (p >>= f).run answer s = (f (p.run answer s).1).run answer (p.run answer s).2 := by
  induction p generalizing s with
  | done a => rfl
  | ask r next ih => exact ih _ _

end Program

end AddressSync
