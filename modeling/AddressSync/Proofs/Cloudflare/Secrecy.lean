import AddressSync.Proofs.Cloudflare.Trial
import AddressSync.Settings.Json

/-! The token of a client shows in the authorization of its requests and nowhere else: a client with
another token does the same, word for word, but for this one header. The words of the library that
makes the requests are among these, which is why it must not tell the header either. -/

namespace AddressSync

open Json

variable {α β : Type}

namespace Http

def Request.signedBy (token : String) (r : Request) : Request :=
  { r with authorization := some ("Bearer " ++ token) }

def signedBy (token : String) : Http α → Http α
  | .done a => .done a
  | .ask (.exchange r) next =>
    .ask (S := signature) (.exchange (r.signedBy token)) fun reply => signedBy token (next reply)
  | .ask (.pause delay) next =>
    .ask (S := signature) (.pause delay) fun x => signedBy token (next x)
  | .ask (.log line) next => .ask (S := signature) (.log line) fun x => signedBy token (next x)
  | .ask .endless next => .ask (S := signature) .endless fun x => signedBy token (next x)

def Note.signedBy (token : String) : Note → Note
  | .exchange r reply => .exchange (r.signedBy token) reply
  | note => note

/-- What is told of a request that went wrong does not depend on how it was authorized. -/
structure Wording.Discreet (w : Wording) : Prop where
  lost : ∀ r authorization cause, w.lost { r with authorization } cause = w.lost r cause
  broken : ∀ r authorization cause, w.broken { r with authorization } cause = w.broken r cause

variable {token : String}

@[simp] theorem signedBy_pure (a : α) : signedBy token (pure a : Http α) = pure a := rfl

theorem signedBy_bind {p p' : Http α} {f f' : α → Http β} (first : signedBy token p = p')
    (rest : ∀ a, signedBy token (f a) = f' a) : signedBy token (p >>= f) = p' >>= f' := by
  subst first
  induction p with
  | done a => exact rest a
  | ask a next ih =>
    cases a <;> exact congrArg _ (funext fun x => ih x)

theorem signedBy_log (level : Log.Level) (message : String) (fields : List (String × Log.Field)) :
    signedBy token (log level message fields) = log level message fields := rfl

theorem signedBy_pause (delay : Nat) : signedBy token (pause delay) = pause delay := rfl

theorem signedBy_endless : signedBy token (endless : Http α) = endless :=
  congrArg (Program.ask (S := signature) .endless) (funext nofun)

theorem dialogue_signedBy (p : Http α) (replies : List Reply) :
    dialogue (signedBy token p) replies =
      ⟨(dialogue p replies).notes.map (Note.signedBy token), (dialogue p replies).ending⟩ := by
  have prepend (note : Note) (d : Dialogue α) :
      Dialogue.after [note.signedBy token] ⟨d.notes.map (Note.signedBy token), d.ending⟩ =
        ⟨(d.after [note]).notes.map (Note.signedBy token), (d.after [note]).ending⟩ := rfl
  induction p generalizing replies with
  | done a => rfl
  | ask a next ih =>
    cases a with
    | endless => rfl
    | pause delay => exact (congrArg _ (ih () replies)).trans (prepend (.pause delay) _)
    | log line => exact (congrArg _ (ih () replies)).trans (prepend (.log line) _)
    | exchange r =>
      cases replies with
      | nil => rfl
      | cons reply left => exact (congrArg _ (ih reply left)).trans (prepend (.exchange r reply) _)

end Http

namespace Cloudflare

open Http

def Client.withToken (token : String) (c : Client) : Client := { c with token }

namespace Client

theorem pretend_withToken (c : Client) (token : String) (call : Call) :
    (c.withToken token).pretend call =
      (c.pretend call).map fun x => (x.1, x.2.withToken token) := by
  cases call <;> rfl

theorem failure_withToken {c : Client} (discreet : c.words.Discreet) (token : String) (r : Request)
    (context : String) (defect : Defect) :
    (c.withToken token).failure (r.signedBy token) context defect = c.failure r context defect := by
  cases defect with
  | lost cause =>
    have same := discreet.lost r (some ("Bearer " ++ token)) cause
    exact congrArg (fun told => Failure.http s!"{context}: request failed: {told}") same
  | broken cause =>
    have same := discreet.broken r (some ("Bearer " ++ token)) cause
    exact congrArg (fun told => Failure.http s!"{context}: failed to read response: {told}") same
  | status | misfit | unsuccessful => rfl

theorem open?_withToken {c : Client} (discreet : c.words.Discreet) (token : String) (r : Request)
    (context : String) (read : Value → Option α) (reply : Http.Reply) :
    (c.withToken token).open? (r.signedBy token) context read reply =
      c.open? r context read reply :=
  congrArg (Except.mapError · _) (funext (failure_withToken discreet token r context))

section

variable {c : Client} {token : String} (discreet : c.words.Discreet)
  (sendable : isHeaderValue c.token = true) (sendable' : isHeaderValue token = true)

include discreet sendable sendable'

theorem signedBy_send (context : String) (read : Value → Option α) (method : Method) (path : String)
    (query : List (String × String)) (body : Option Value) :
    signedBy token (c.send context read method path query body) =
      (c.withToken token).send context read method path query body := by
  refine signedBy_bind (signedBy_log _ _ _) fun _ => ?_
  have sendable' : isHeaderValue (c.withToken token).token = true := sendable'
  rw [sendable, sendable']
  refine congrArg (Program.ask (S := signature) (.exchange _)) (funext fun reply => ?_)
  exact congrArg Program.done (open?_withToken discreet token _ context read reply).symm

theorem signedBy_fetch (context : String) (read : Value → Option α) (method : Method) (path : String)
    (query : List (String × String)) (body : Option Value) :
    signedBy token (c.fetch context read method path query body) =
      (c.withToken token).fetch context read method path query body := by
  refine signedBy_bind (signedBy_send discreet sendable sendable' _ _ _ _ _ _) fun
    | .error _ => rfl
    | .ok envelope => ?_
  dsimp only
  split <;> rfl

theorem signedBy_execute (context : String) (method : Method) (path : String) (body : Option Value) :
    signedBy token (c.execute context method path body) =
      (c.withToken token).execute context method path body :=
  signedBy_bind (signedBy_send discreet sendable sendable' _ _ _ _ _ _) fun
    | .error _ => rfl
    | .ok _ => rfl

theorem signedBy_follow {κ γ : Type} (g : Paging κ β γ) (allowance : Nat) (k : κ)
    (found : List γ) :
    signedBy token (c.follow g allowance k found) =
      (c.withToken token).follow g allowance k found := by
  induction allowance generalizing k found with
  | zero => exact signedBy_endless
  | succ allowance ih =>
    rw [follow_succ, follow_succ]
    refine signedBy_bind (signedBy_send discreet sendable sendable' _ _ _ _ _ _) fun opened => ?_
    rcases opened.bind (g.page k) with e | ⟨entries, _ | k'⟩
    · rfl
    · rfl
    · exact ih k' (found ++ entries)

theorem signedBy_recordsFrom (zone name : String) (family : Family) (allowance : Nat)
    (page : UInt32) (found : List Record) :
    signedBy token (c.recordsFrom zone name family allowance page found) =
      (c.withToken token).recordsFrom zone name family allowance page found := by
  rw [recordsFrom_eq, recordsFrom_eq]
  exact signedBy_follow discreet sendable sendable' _ _ _ _

theorem signedBy_itemsFrom (account id : String) (allowance : Nat) (cursor : Option String)
    (found : List ListItem) :
    signedBy token (c.itemsFrom account id allowance cursor found) =
      (c.withToken token).itemsFrom account id allowance cursor found := by
  rw [itemsFrom_eq, itemsFrom_eq]
  exact signedBy_follow discreet sendable sendable' _ _ _ _

theorem signedBy_awaitOperation (account operation : String) (left : Nat) :
    signedBy token (c.awaitOperation account operation left) =
      (c.withToken token).awaitOperation account operation left := by
  induction left with
  | zero => rfl
  | succ left ih =>
    refine signedBy_bind (signedBy_fetch discreet sendable sendable' _ _ _ _ _ _) fun
      | .error _ => rfl
      | .ok answer => ?_
    dsimp only
    split
    · rfl
    split
    · rfl
    refine signedBy_bind (signedBy_log _ _ _) fun _ => ?_
    split
    · exact signedBy_bind (signedBy_pause _) fun _ => ih
    · exact ih

theorem signedBy_operate (context : String) (method : Method) (account id : String) (body : Value) :
    signedBy token (c.operate context method account id body) =
      (c.withToken token).operate context method account id body :=
  signedBy_bind (signedBy_fetch discreet sendable sendable' _ _ _ _ _ _) fun
    | .error _ => rfl
    | .ok operation => signedBy_awaitOperation discreet sendable sendable' account operation pollLimit

theorem signedBy_verifyToken : signedBy token c.verifyToken = (c.withToken token).verifyToken := by
  refine signedBy_bind (signedBy_fetch discreet sendable sendable' _ _ _ _ _ _) fun
    | .error _ => rfl
    | .ok status => ?_
  dsimp only
  split <;> rfl

theorem signedBy_transact (allowance : Nat) (call : Call) :
    signedBy token (c.transact allowance call) = (c.withToken token).transact allowance call := by
  cases call with
  | listZones | listLists =>
    exact signedBy_bind (signedBy_fetch discreet sendable sendable' _ _ _ _ _ _) fun _ => rfl
  | listRecords => exact signedBy_recordsFrom discreet sendable sendable' _ _ _ _ _ _
  | listItems => exact signedBy_itemsFrom discreet sendable sendable' _ _ _ _ _
  | createRecord | createList | replaceItems =>
    exact signedBy_bind (signedBy_fetch discreet sendable sendable' _ _ _ _ _ _) fun
      | .error _ => rfl
      | .ok _ => rfl
  | updateRecord | deleteRecord | deleteList => exact signedBy_execute discreet sendable sendable' _ _ _ _
  | createItems account id blocks comment =>
    refine signedBy_bind (signedBy_operate discreet sendable sendable' _ _ _ _ _) fun
      | .error _ => rfl
      | .ok _ => ?_
    exact signedBy_bind (signedBy_itemsFrom discreet sendable sendable' _ _ _ _ _) fun
      | .error _ => rfl
      | .ok _ => rfl
  | deleteItems => exact signedBy_operate discreet sendable sendable' _ _ _ _ _

/-- With another token a client does each job in the same way, and is the same client after it. -/
theorem signedBy_carryOut (allowance : Nat) (job : Job) :
    (c.withToken token).carryOut allowance job =
      signedBy token (c.carryOut allowance job) >>= fun x => pure (x.1, x.2.withToken token) := by
  have direct (job : Job) {p p' : Http (Except Failure job.Reply)} (same : signedBy token p = p') :
      (p' >>= fun result => pure (result, c.withToken token)) =
        signedBy token (p >>= fun result => pure (result, c)) >>= fun x =>
          pure (x.1, x.2.withToken token) := by
    rw [signedBy_bind same fun _ => rfl, bind_assoc]
    rfl
  have does := c.carryOut_does allowance job
  generalize c.carryOut allowance job = p at does ⊢
  cases does with
  | verified => exact direct .verifyToken (signedBy_verifyToken discreet sendable sendable')
  | refused objects =>
    rw [carryOut, perform_refused objects]
    rfl
  | @transacted call fits possible =>
    rw [carryOut, perform_transacted (c := c.withToken token) fits possible]
    exact direct (.call call) (signedBy_transact discreet sendable sendable' allowance call)
  | pretended fits trial mutates request granted =>
    rw [carryOut, perform, fits, request, pretend_withToken, granted, withToken, trial]
    rfl

end

theorem kept_of_carryOut (c : Client) (allowance : Nat) (job : Job) (replies : List Http.Reply)
    {answer : Except Failure job.Reply} {next : Client}
    (done : (dialogue (c.carryOut allowance job) replies).result? = some (answer, next)) :
    next.token = c.token ∧ next.words = c.words := by
  have does := c.carryOut_does allowance job
  generalize c.carryOut allowance job = p at does done
  cases does with
  | verified | transacted =>
    rw [next_of_done done]
    exact ⟨rfl, rfl⟩
  | refused objects =>
    cases done
    exact ⟨rfl, rfl⟩
  | pretended fits trial mutates request granted =>
    cases done
    obtain ⟨-, n, rfl, -⟩ := pretend_ids granted
    exact ⟨rfl, rfl⟩

end Client

def Turn.signedBy (token : String) (t : Turn) : Turn :=
  { t with notes := t.notes.map (Note.signedBy token) }

variable {c : Client} {token token' : String}

theorem session_withToken (discreet : c.words.Discreet) (sendable : isHeaderValue c.token = true)
    (sendable' : isHeaderValue token = true) (allowance : Nat) (jobs : List Job)
    (replies : List Http.Reply) :
    (c.withToken token).session allowance jobs replies =
      (c.session allowance jobs replies).map (Turn.signedBy token) := by
  induction jobs generalizing c replies with
  | nil => rfl
  | cons job jobs ih =>
    -- The next client still has a token that can be sent, and words that do not tell it.
    have kept := @Client.kept_of_carryOut c allowance job replies
    rw [Client.session, Client.session, Client.signedBy_carryOut discreet sendable sendable',
      dialogue_bind_pure, dialogue_signedBy]
    generalize dialogue (c.carryOut allowance job) replies = d at kept
    obtain ⟨notes, _ | ⟨⟨answer, next⟩, left⟩⟩ := d
    · rfl
    · obtain ⟨same, sameWords⟩ := kept rfl
      rw [← sameWords] at discreet
      rw [← same] at sendable
      exact congrArg (_ :: ·) (ih discreet sendable left)

/-- Of two clients that differ in their tokens alone, each shows the same turns as the other, whatever
is asked of them and whatever replies both get, but for the authorization of its requests, which is by
its own token; and what is shown of the clients and of their settings is the same. Only the library
that makes the requests could tell the tokens apart in what it says of a request that went wrong: it
is taken to be discreet. -/
theorem session_hides_token (words : Words) (discreet : words.Discreet) (given : token ≠ "")
    (given' : token' ≠ "") (sendable : isHeaderValue token = true)
    (sendable' : isHeaderValue token' = true) (trial : Bool) (base : String) (allowance : Nat)
    (jobs : List Job) (replies : List Http.Reply) :
    ∃ c c', Client.ofAccess words ⟨token, trial⟩ = .ok c ∧
      Client.ofAccess words ⟨token', trial⟩ = .ok c' ∧
      let turns := (c.withBase base).session allowance jobs replies
      let turns' := (c'.withBase base).session allowance jobs replies
      turns' = turns.map (Turn.signedBy token') ∧ turns = turns'.map (Turn.signedBy token) ∧
        (c'.withBase base).describe = (c.withBase base).describe ∧
          Access.describe ⟨token', trial⟩ = Access.describe ⟨token, trial⟩ := by
  have made {token : String} (given : token ≠ "") :
      Client.ofAccess words ⟨token, trial⟩ = .ok { token, trial, words } := by
    rw [Client.ofAccess, Access.validate, if_neg given]
    rfl
  refine ⟨_, _, made given, made given', ?_, ?_, rfl, rfl⟩
  · exact session_withToken (c := Client.withBase { token, trial, words } base) discreet sendable
      sendable' _ _ _
  · exact session_withToken (c := Client.withBase { token := token', trial, words } base) discreet
      sendable' sendable _ _ _

theorem session_hides_token_visits : plainWords.Discreet ∧ "alpha" ≠ "" ∧ "beta" ≠ "" ∧
    isHeaderValue "alpha" = true ∧ isHeaderValue "beta" = true ∧
    ∃ c c', Client.ofAccess plainWords ⟨"alpha", false⟩ = .ok c ∧
      Client.ofAccess plainWords ⟨"beta", false⟩ = .ok c' ∧
        let jobs : List Job := [.verifyToken, .verifyToken, .call (.listZones "example.com")]
        let replies := [.none "connection refused", granted (.record [("status", .text "active")]),
          .response 403 ""]
        let turns := (c.withBase "http://localhost/").session 9 jobs replies
        let turns' := (c'.withBase "http://localhost/").session 9 jobs replies
        turns' = turns.map (Turn.signedBy "beta") ∧
          (turns.flatMap Turn.requests).map Request.authorization =
            [some "Bearer alpha", some "Bearer alpha", some "Bearer alpha"] ∧
          (turns'.flatMap Turn.requests).map Request.authorization =
            [some "Bearer beta", some "Bearer beta", some "Bearer beta"] ∧
          ∃ notes notes' rest rest',
            turns = ⟨.verifyToken, notes, some (.error (.http ("verify token: request failed: " ++
              "error sending request for url (http://localhost/user/tokens/verify)")))⟩ :: rest ∧
            turns' = ⟨.verifyToken, notes', some (.error (.http ("verify token: request failed: " ++
              "error sending request for url (http://localhost/user/tokens/verify)")))⟩ :: rest' := by
  have discreet : plainWords.Discreet := ⟨fun _ _ _ => rfl, fun _ _ _ => rfl⟩
  refine ⟨discreet, by decide, by decide, rfl, rfl, ?_⟩
  obtain ⟨c, c', made, made', same, -⟩ := @session_hides_token "alpha" "beta" plainWords discreet
    (by decide) (by decide) rfl rfl false "http://localhost/" 9
    [.verifyToken, .verifyToken, .call (.listZones "example.com")]
    [.none "connection refused", granted (.record [("status", .text "active")]), .response 403 ""]
  cases made
  cases made'
  exact ⟨_, _, rfl, rfl, same, by rfl, by rfl, _, _, _, _, rfl, rfl⟩

end Cloudflare

end AddressSync
