import AddressSync.Proofs.Http.Dialogue

/-! What comes of a program that speaks HTTP with a server that answers each request by itself,
whatever was asked before. -/

namespace AddressSync.Http

open Program

variable {α β : Type}

def attend (server : Request → Reply) : (a : Action) → Dialogue (Answer a)
  | .exchange r => ⟨[.exchange r (some (server r))], some (server r, [])⟩
  | .pause delay => ⟨[.pause delay], some ((), [])⟩
  | .log line => ⟨[.log line], some ((), [])⟩
  | .endless => ⟨[], none⟩

def visit (server : Request → Reply) : Http α → Dialogue α
  | .done a => ⟨[], some (a, [])⟩
  | .ask a next => (attend server a).goOn fun x _ => visit server (next x)

variable {server : Request → Reply}

@[simp] theorem visit_pure (a : α) : visit server (pure a) = ⟨[], some (a, [])⟩ := rfl

theorem visit_bind (p : Http α) (f : α → Http β) :
    visit server (p >>= f) = (visit server p).goOn fun a _ => visit server (f a) := by
  induction p with
  | done a => rfl
  | ask a next ih =>
    rw [visit, Dialogue.goOn_assoc]
    exact congrArg (Dialogue.goOn (attend server a)) (funext fun x => funext fun _ => ih x)

theorem visit_bind_pure (p : Http α) (g : α → β) :
    visit server (p >>= fun a => pure (g a)) =
      ⟨(visit server p).notes, (visit server p).ending.map (Prod.map g fun _ => [])⟩ := by
  rw [visit_bind]
  obtain ⟨notes, _ | ⟨a, left⟩⟩ := visit server p
  · rfl
  · simp [Dialogue.goOn, Dialogue.after]

end AddressSync.Http
