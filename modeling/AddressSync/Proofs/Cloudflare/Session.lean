import AddressSync.Cloudflare.Api
import AddressSync.Proofs.Cloudflare.Replies
import AddressSync.Proofs.Http.Dialogue

/-! A client at work: what may be asked of it, one thing after the other, and what is noted of each
while replies come to it in a row. -/

namespace AddressSync.Cloudflare

open Http

inductive Job
  | call (c : Call)
  | verifyToken

abbrev Job.Reply : Job → Type
  | .call c => c.Reply
  | .verifyToken => Unit

def Client.carryOut (c : Client) (allowance : Nat) : (job : Job) → Http (Except Failure job.Reply × Client)
  | .call call => c.perform allowance call
  | .verifyToken => return (← c.verifyToken, c)

/-- A job that was begun, what was noted of it and, once it was done, what came of it. -/
structure Turn where
  job : Job
  notes : List Note
  answer? : Option (Except Failure job.Reply)

def Turn.requests (t : Turn) : List Http.Request := t.notes.filterMap Note.request?

/-- The turns of a client with these replies. Where they are used up, the last turn is under way. -/
def Client.session (c : Client) (allowance : Nat) : List Job → List Http.Reply → List Turn
  | [], _ => []
  | job :: jobs, replies =>
    let d := dialogue (c.carryOut allowance job) replies
    match d.ending with
    | none => [⟨job, d.notes, none⟩]
    | some ((answer, next), left) =>
      ⟨job, d.notes, some answer⟩ :: next.session allowance jobs left

variable {c : Client} {allowance : Nat} {call : Call}

namespace Client

theorem perform_refused {e : Failure} (refused : objection? call = some e) (c : Client)
    (allowance : Nat) : c.perform allowance call = pure (.error e, c) := by
  rw [perform, refused]

/-- A call that is not refused is transacted, unless it would change something and is only tried. -/
theorem perform_transacted (fits : objection? call = none)
    (direct : c.trial = false ∨ call.isMutation = false) (allowance : Nat) :
    c.perform allowance call = c.transact allowance call >>= fun result => pure (result, c) := by
  rw [perform, fits]
  rcases direct with live | reads
  · rw [live]
  · cases call with
    | listZones | listRecords | listLists | listItems => cases c.trial <;> rfl
    | _ => cases reads

/-- A change that is only tried is told of, and then granted as if it had been made. -/
theorem perform_pretended (fits : objection? call = none) (trial : c.trial = true)
    (mutates : call.isMutation = true) :
    ∃ method path body reply next, changeRequest? call = some (method, path, body) ∧
      c.pretend call = some (reply, next) ∧ ∀ allowance,
        c.perform allowance call = c.announce method path body >>= fun _ => pure (.ok reply, next) := by
  obtain ⟨⟨method, path, body⟩, request⟩ : ∃ r, changeRequest? call = some r := by
    cases call with
    | listZones | listRecords | listLists | listItems => cases mutates
    | _ => exact ⟨_, rfl⟩
  obtain ⟨⟨reply, next⟩, granted⟩ : ∃ answer, c.pretend call = some answer := by
    cases call with
    | listZones | listRecords | listLists | listItems => cases mutates
    | _ => exact ⟨_, rfl⟩
  refine ⟨method, path, body, reply, next, request, granted, fun allowance => ?_⟩
  rw [perform, fits, trial, request, granted]

/-- The program as which a client does a job: one that has no part in the client, after which the
client is the same, unless a change is tried. -/
inductive Does (c : Client) (allowance : Nat) :
    (job : Job) → Http (Except Failure job.Reply × Client) → Prop
  | verified : Does c allowance .verifyToken (c.verifyToken >>= fun result => pure (result, c))
  | refused {call : Call} {e : Failure} (objects : objection? call = some e) :
    Does c allowance (.call call) (pure (.error e, c))
  | transacted {call : Call} (fits : objection? call = none)
    (direct : c.trial = false ∨ call.isMutation = false) :
    Does c allowance (.call call) (c.transact allowance call >>= fun result => pure (result, c))
  | pretended {call : Call} {method : Method} {path : String} {body : Option Json.Value}
    {reply : call.Reply} {next : Client} (fits : objection? call = none) (trial : c.trial = true)
    (mutates : call.isMutation = true) (request : changeRequest? call = some (method, path, body))
    (granted : c.pretend call = some (reply, next)) :
    Does c allowance (.call call) (c.announce method path body >>= fun _ => pure (.ok reply, next))

theorem carryOut_does (c : Client) (allowance : Nat) (job : Job) :
    c.Does allowance job (c.carryOut allowance job) := by
  cases job with
  | verifyToken => exact .verified
  | call call =>
    rw [carryOut]
    cases objects : objection? call with
    | some e =>
      rw [perform_refused objects]
      exact .refused objects
    | none =>
      cases trial : c.trial with
      | false =>
        rw [perform_transacted objects (.inl trial)]
        exact .transacted objects (.inl trial)
      | true =>
        cases mutates : call.isMutation with
        | false =>
          rw [perform_transacted objects (.inr mutates)]
          exact .transacted objects (.inr mutates)
        | true =>
          obtain ⟨method, path, body, reply, next, request, granted, pretended⟩ :=
            perform_pretended objects trial mutates
          rw [pretended]
          exact .pretended objects trial mutates request granted

theorem next_of_done {job : Job} {p : Http (Except Failure job.Reply)} {replies : List Http.Reply}
    {answer : Except Failure job.Reply} {next : Client}
    (done : (dialogue (p >>= fun result => pure (result, c)) replies).result? = some (answer, next)) :
    next = c := by
  rw [result?_bind_pure] at done
  obtain ⟨_, -, same⟩ := Option.map_eq_some_iff.mp done
  cases same
  rfl

end Client

theorem Client.forall_mem_session {I : Client → Prop} {P : Turn → Prop}
    (one : ∀ c job replies, I c → let d := dialogue (c.carryOut allowance job) replies
      P ⟨job, d.notes, d.result?.map Prod.fst⟩ ∧ ∀ a ∈ d.result?, I a.2)
    (start : I c) (jobs : List Job) (replies : List Http.Reply) :
    ∀ t ∈ c.session allowance jobs replies, P t := by
  induction jobs generalizing c replies with
  | nil => simp [session]
  | cons job jobs ih =>
    obtain ⟨shown, kept⟩ := one c job replies start
    rw [session]
    generalize dialogue (c.carryOut allowance job) replies = d at shown kept
    obtain ⟨notes, _ | ⟨⟨answer, next⟩, left⟩⟩ := d
    · exact List.forall_mem_singleton.mpr shown
    · exact List.forall_mem_cons.mpr ⟨shown, ih (kept _ rfl) left⟩

end AddressSync.Cloudflare
