import AddressSync.Proofs.Program.Asks
import AddressSync.Http.Exchange

/-! What comes of a program that speaks HTTP when replies come to it one after the other. Once they
are used up the program waits with its last request sent, so that every moment of every run is the
end of some dialogue. -/

namespace AddressSync.Http

open Program

variable {α β : Type}

/-- What is noted of a dialogue: a request stands with its reply, if that has come. -/
inductive Note
  | exchange (r : Request) (reply : Option Reply)
  | pause (delay : Nat)
  | log (line : Log.Line)

def Note.request? : Note → Option Request
  | .exchange r _ => some r
  | _ => none

def Note.exchange? : Note → Option (Request × Reply)
  | .exchange r (some reply) => some (r, reply)
  | _ => none

def Note.isStep : Note → Bool
  | .exchange .. | .pause _ => true
  | .log _ => false

theorem mem_requests_of_mem_exchanges {notes : List Note} {r : Request} {reply : Reply}
    (mem : (r, reply) ∈ notes.filterMap Note.exchange?) : r ∈ notes.filterMap Note.request? := by
  obtain ⟨note, among, same⟩ := List.mem_filterMap.mp mem
  refine List.mem_filterMap.mpr ⟨note, among, ?_⟩
  cases note with
  | exchange r' reply' =>
    cases reply' <;> cases same
    rfl
  | pause | log => cases same

structure Dialogue (α : Type) where
  notes : List Note
  ending : Option (α × List Reply)

namespace Dialogue

def requests (d : Dialogue α) : List Request := d.notes.filterMap Note.request?

def exchanges (d : Dialogue α) : List (Request × Reply) := d.notes.filterMap Note.exchange?

def steps (d : Dialogue α) : List Note := d.notes.filter Note.isStep

def result? (d : Dialogue α) : Option α := d.ending.map Prod.fst

def after (notes : List Note) (d : Dialogue α) : Dialogue α := { d with notes := notes ++ d.notes }

def goOn (d : Dialogue α) (rest : α → List Reply → Dialogue β) : Dialogue β :=
  match d.ending with
  | none => ⟨d.notes, none⟩
  | some (a, left) => (rest a left).after d.notes

end Dialogue

def answer : (a : Action) → List Reply → Dialogue (Answer a)
  | .exchange r, [] => ⟨[.exchange r none], none⟩
  | .exchange r, reply :: left => ⟨[.exchange r (some reply)], some (reply, left)⟩
  | .pause delay, replies => ⟨[.pause delay], some ((), replies)⟩
  | .log line, replies => ⟨[.log line], some ((), replies)⟩
  | .endless, _ => ⟨[], none⟩

def dialogue : Http α → List Reply → Dialogue α
  | .done a, replies => ⟨[], some (a, replies)⟩
  | .ask a next, replies => (answer a replies).goOn fun x left => dialogue (next x) left

@[simp] theorem dialogue_pure (a : α) (replies : List Reply) :
    dialogue (pure a) replies = ⟨[], some (a, replies)⟩ := rfl

namespace Dialogue

@[simp] theorem requests_after (notes : List Note) (d : Dialogue α) :
    (d.after notes).requests = notes.filterMap Note.request? ++ d.requests :=
  List.filterMap_append

@[simp] theorem exchanges_after (notes : List Note) (d : Dialogue α) :
    (d.after notes).exchanges = notes.filterMap Note.exchange? ++ d.exchanges :=
  List.filterMap_append

@[simp] theorem steps_after (notes : List Note) (d : Dialogue α) :
    (d.after notes).steps = notes.filter Note.isStep ++ d.steps :=
  List.filter_append ..

theorem requests_eq (d : Dialogue α) : d.requests = d.steps.filterMap Note.request? := by
  rw [steps, List.filterMap_filter]
  refine congrArg (List.filterMap · d.notes) (funext fun note => ?_)
  cases note <;> rfl

theorem exchanges_eq (d : Dialogue α) : d.exchanges = d.steps.filterMap Note.exchange? := by
  rw [steps, List.filterMap_filter]
  refine congrArg (List.filterMap · d.notes) (funext fun note => ?_)
  cases note <;> rfl

@[simp] theorem result?_after (notes : List Note) (d : Dialogue α) :
    (d.after notes).result? = d.result? := rfl

theorem ending_goOn {d : Dialogue α} {a : α} {left : List Reply} (ended : d.ending = some (a, left))
    (rest : α → List Reply → Dialogue β) : (d.goOn rest).ending = (rest a left).ending := by
  rw [goOn, ended]
  rfl

theorem exchanges_goOn {d : Dialogue α} {a : α} {left : List Reply}
    (ended : d.ending = some (a, left)) (rest : α → List Reply → Dialogue β) :
    (d.goOn rest).exchanges = d.exchanges ++ (rest a left).exchanges := by
  rw [goOn, ended]
  exact List.filterMap_append

theorem mem_exchanges_goOn {d : Dialogue α} {e : Request × Reply} (mem : e ∈ d.exchanges)
    (rest : α → List Reply → Dialogue β) : e ∈ (d.goOn rest).exchanges := by
  cases ended : d.ending with
  | none => rwa [goOn, ended]
  | some ending =>
    rw [exchanges_goOn ended]
    exact List.mem_append_left _ mem

theorem after_goOn (notes : List Note) (d : Dialogue α) (rest : α → List Reply → Dialogue β) :
    (d.after notes).goOn rest = (d.goOn rest).after notes := by
  obtain ⟨noted, _ | ⟨a, left⟩⟩ := d
  · rfl
  · simp only [goOn, after, List.append_assoc]

theorem goOn_assoc {γ : Type} (d : Dialogue α) (rest : α → List Reply → Dialogue β)
    (last : β → List Reply → Dialogue γ) :
    (d.goOn rest).goOn last = d.goOn fun a left => (rest a left).goOn last := by
  obtain ⟨notes, _ | ⟨a, left⟩⟩ := d
  · rfl
  · exact after_goOn notes (rest a left) last

end Dialogue

theorem dialogue_bind (p : Http α) (f : α → Http β) (replies : List Reply) :
    dialogue (p >>= f) replies =
      (dialogue p replies).goOn fun a left => dialogue (f a) left := by
  induction p generalizing replies with
  | done a => rfl
  | ask a next ih =>
    rw [dialogue, Dialogue.goOn_assoc]
    exact congrArg (Dialogue.goOn (answer a replies)) (funext fun x => funext fun left => ih x left)

theorem dialogue_bind_pure (p : Http α) (g : α → β) (replies : List Reply) :
    dialogue (p >>= fun a => pure (g a)) replies =
      ⟨(dialogue p replies).notes, (dialogue p replies).ending.map (Prod.map g id)⟩ := by
  rw [dialogue_bind]
  obtain ⟨notes, _ | ⟨a, left⟩⟩ := dialogue p replies
  · rfl
  · simp [Dialogue.goOn, Dialogue.after]

@[simp] theorem notes_bind_pure (p : Http α) (g : α → β) (replies : List Reply) :
    (dialogue (p >>= fun a => pure (g a)) replies).notes = (dialogue p replies).notes := by
  rw [dialogue_bind_pure]

@[simp] theorem result?_bind_pure (p : Http α) (g : α → β) (replies : List Reply) :
    (dialogue (p >>= fun a => pure (g a)) replies).result? = (dialogue p replies).result?.map g := by
  rw [dialogue_bind_pure]
  simp [Dialogue.result?, Function.comp_def]

@[simp] theorem steps_bind_pure (p : Http α) (g : α → β) (replies : List Reply) :
    (dialogue (p >>= fun a => pure (g a)) replies).steps = (dialogue p replies).steps := by
  rw [Dialogue.steps, Dialogue.steps, notes_bind_pure]

@[simp] theorem exchanges_bind_pure (p : Http α) (g : α → β) (replies : List Reply) :
    (dialogue (p >>= fun a => pure (g a)) replies).exchanges = (dialogue p replies).exchanges := by
  rw [Dialogue.exchanges, Dialogue.exchanges, notes_bind_pure]

theorem requests_intersperse (delay : Nat) (notes : List Note) :
    (notes.intersperse (.pause delay)).filterMap Note.request? = notes.filterMap Note.request? := by
  induction notes with
  | nil => rfl
  | cons note notes ih =>
    cases notes with
    | nil => rfl
    | cons note' notes =>
      rw [List.intersperse_cons_cons]
      cases note with
      | exchange r reply => exact congrArg (r :: ·) ih
      | pause | log => exact ih

theorem requests_of_ending {p : Http α} {replies : List Reply} {ending : α × List Reply}
    (ended : (dialogue p replies).ending = some ending) :
    (dialogue p replies).requests = (dialogue p replies).exchanges.map Prod.fst := by
  induction p generalizing replies with
  | done a => rfl
  | ask a next ih =>
    cases a with
    | endless => cases ended
    | pause delay => exact ih () ended
    | log line => exact ih () ended
    | exchange r =>
      cases replies with
      | nil => cases ended
      | cons reply left => exact congrArg (r :: ·) (ih reply ended)

theorem dialogue_log_bind (level : Log.Level) (message : String)
    (fields : List (String × Log.Field)) (f : Unit → Http β) (replies : List Reply) :
    dialogue (log level message fields >>= f) replies =
      (dialogue (f ()) replies).after [.log ⟨level, message, fields⟩] := rfl

def SendsOnly (Q : Request → Prop) (p : Http α) : Prop :=
  p.Asks (S := signature) fun a : Action => ∀ r, a = .exchange r → Q r

section

variable {Q : Request → Prop} {p : Http α}

theorem sendsOnly_pure (a : α) : SendsOnly Q (pure a : Http α) := asks_pure a

theorem sendsOnly_endless : SendsOnly Q (endless : Http α) := ⟨fun _ => nofun, nofun⟩

theorem SendsOnly.bind {f : α → Http β} (first : SendsOnly Q p) (rest : ∀ a, SendsOnly Q (f a)) :
    SendsOnly Q (p >>= f) :=
  Asks.bind first rest

theorem SendsOnly.log {f : Unit → Http β} (rest : SendsOnly Q (f ())) (level : Log.Level)
    (message : String) (fields : List (String × Log.Field)) :
    SendsOnly Q (log level message fields >>= f) :=
  ⟨fun _ => nofun, fun _ => rest⟩

theorem SendsOnly.pause {f : Unit → Http β} (rest : SendsOnly Q (f ())) (delay : Nat) :
    SendsOnly Q (pause delay >>= f) :=
  ⟨fun _ => nofun, fun _ => rest⟩

theorem SendsOnly.exchange {r : Request} {f : Reply → Http β} (allowed : Q r)
    (rest : ∀ reply, SendsOnly Q (f reply)) : SendsOnly Q (exchange r >>= f) :=
  ⟨fun _ same => by cases same; exact allowed, rest⟩

theorem SendsOnly.requests (only : SendsOnly Q p) (replies : List Reply) :
    ∀ r ∈ (dialogue p replies).requests, Q r := by
  induction p generalizing replies with
  | done a => simp [dialogue, Dialogue.requests]
  | ask a next ih =>
    obtain ⟨allowed, rest⟩ := only
    cases a with
    | endless => simp [dialogue, answer, Dialogue.goOn, Dialogue.requests]
    | pause delay => exact ih () (rest ()) replies
    | log line => exact ih () (rest ()) replies
    | exchange r =>
      cases replies with
      | nil => exact List.forall_mem_singleton.mpr (allowed r rfl)
      | cons reply left => exact List.forall_mem_cons.mpr ⟨allowed r rfl, ih reply (rest reply) left⟩

end

end AddressSync.Http
