import AddressSync.Proofs.Cloudflare.Paging
import AddressSync.Proofs.Cloudflare.Trouble

/-! A client meets trouble in one way: whatever it was doing, it sends nothing more and ends with a
failure that tells of just this trouble. -/

namespace AddressSync

open Http Json

variable {α β : Type} {shows : Request → Reply → Option Trouble}

namespace Http

/-- Only the last exchange may show trouble, and all that follows it is a failure that tells of it. -/
inductive Dialogue.Closed (shows : Request → Reply → Option Trouble)
    (d : Dialogue (Except Failure α)) : Prop
  | untroubled (none : ∀ e ∈ d.exchanges, shows e.1 e.2 = none)
  | troubled {before : List (Request × Reply)} {r : Request} {reply : Reply} {t : Trouble}
    {failure : Failure} (exchanges : d.exchanges = before ++ [(r, reply)])
    (none : ∀ e ∈ before, shows e.1 e.2 = none) (shown : shows r reply = some t)
    (result : d.result? = some (.error failure)) (told : failure.trouble? = some t)

theorem Dialogue.Closed.after {d : Dialogue (Except Failure α)} {notes : List Note}
    (closed : d.Closed shows)
    (fine : ∀ e ∈ notes.filterMap Note.exchange?, shows e.1 e.2 = none) :
    (d.after notes).Closed shows := by
  cases closed with
  | untroubled none =>
    refine .untroubled ?_
    rw [exchanges_after]
    exact List.forall_mem_append.mpr ⟨fine, none⟩
  | troubled exchanges none shown result told =>
    refine .troubled ?_ (List.forall_mem_append.mpr ⟨fine, none⟩) shown result told
    rw [exchanges_after, exchanges, List.append_assoc]

theorem Dialogue.Closed.of_shown {d : Dialogue (Except Failure α)} (closed : d.Closed shows)
    {before after : List (Request × Reply)} {r : Request} {reply : Reply} {t : Trouble}
    (exchanges : d.exchanges = before ++ (r, reply) :: after) (shown : shows r reply = some t) :
    (∀ e ∈ before, shows e.1 e.2 = none) ∧ after = [] ∧
      ∃ failure, d.result? = some (.error failure) ∧ failure.trouble? = some t := by
  have fine {es : List (Request × Reply)} (none : ∀ e ∈ es, shows e.1 e.2 = none) :
      (r, reply) ∉ es := by
    intro mem
    rw [none _ mem] at shown
    cases shown
  cases closed with
  | untroubled none =>
    rw [exchanges] at none
    exact absurd (List.mem_append_right _ List.mem_cons_self) (fine none)
  | @troubled before' r' reply' t' failure exchanges' none shown' result told =>
    rw [exchanges] at exchanges'
    rcases after.eq_nil_or_concat with rfl | ⟨front, last, rfl⟩
    · obtain ⟨rfl, same⟩ := List.append_inj' exchanges' rfl
      cases same
      rw [shown] at shown'
      cases shown'
      exact ⟨none, rfl, failure, result, told⟩
    · -- The exchange would be one of those before the last, which show no trouble.
      rw [List.concat_eq_append, ← List.cons_append, ← List.append_assoc] at exchanges'
      rw [← (List.append_inj' exchanges' rfl).1] at none
      exact absurd (List.mem_append_right _ List.mem_cons_self) (fine none)

def FailsClosed (shows : Request → Reply → Option Trouble) (p : Http (Except Failure α)) : Prop :=
  ∀ replies, (dialogue p replies).Closed shows

theorem failsClosed_pure (result : Except Failure α) : FailsClosed shows (pure result) :=
  fun _ => .untroubled (List.forall_mem_nil _)

theorem failsClosed_endless : FailsClosed shows (endless : Http (Except Failure α)) :=
  fun _ => .untroubled (List.forall_mem_nil _)

theorem FailsClosed.bind {p : Http (Except Failure α)}
    {f : Except Failure α → Http (Except Failure β)} (first : FailsClosed shows p)
    (stops : ∀ e, f (.error e) = pure (.error e)) (rest : ∀ a, FailsClosed shows (f (.ok a))) :
    FailsClosed shows (p >>= f) := by
  intro replies
  rw [dialogue_bind]
  have closed := first replies
  generalize dialogue p replies = d at closed
  obtain ⟨notes, _ | ⟨e | a, left⟩⟩ := d
  · cases closed with
    | untroubled none => exact .untroubled none
    | troubled _ _ _ result => cases result
  · have ends : (Dialogue.mk notes (some (Except.error e, left))).goOn
        (fun x left => dialogue (f x) left) = ⟨notes ++ [], some (.error e, left)⟩ := by
      simp only [Dialogue.goOn, stops]
      rfl
    rw [ends, List.append_nil]
    cases closed with
    | untroubled none => exact .untroubled none
    | troubled exchanges none shown result told =>
      cases result
      exact .troubled exchanges none shown rfl told
  · cases closed with
    | untroubled none => exact (rest a left).after none
    | troubled _ _ _ result => cases result

theorem FailsClosed.log {f : Unit → Http (Except Failure α)} (rest : FailsClosed shows (f ()))
    (level : Log.Level) (message : String) (fields : List (String × Log.Field)) :
    FailsClosed shows (log level message fields >>= f) :=
  fun replies => (rest replies).after (List.forall_mem_nil _)

theorem FailsClosed.pause {f : Unit → Http (Except Failure α)} (rest : FailsClosed shows (f ()))
    (delay : Nat) : FailsClosed shows (pause delay >>= f) :=
  fun replies => (rest replies).after (List.forall_mem_nil _)

/-- No good result comes before some request has its reply. -/
def Earns (p : Http (Except Failure α)) : Prop :=
  ∀ replies a, (dialogue p replies).result? = some (.ok a) → (dialogue p replies).exchanges ≠ []

theorem earns_error (e : Failure) : Earns (pure (.error e) : Http (Except Failure α)) :=
  fun _ _ good => nomatch good

theorem Earns.bind {p : Http (Except Failure α)} {f : Except Failure α → Http (Except Failure β)}
    (first : Earns p) (stops : ∀ e, f (.error e) = pure (.error e)) : Earns (p >>= f) := by
  intro replies b good
  rw [dialogue_bind] at good ⊢
  have earned := first replies
  generalize dialogue p replies = d at earned good ⊢
  obtain ⟨notes, _ | ⟨e | a, left⟩⟩ := d
  · cases good
  · simp only [Dialogue.goOn, stops] at good
    cases good
  · simp only [Dialogue.goOn, Dialogue.exchanges_after]
    exact List.append_ne_nil_of_left_ne_nil (earned a rfl) _

end Http

namespace Cloudflare

namespace Client

variable {c : Client} {read : Value → Option α} {method : Method} {path : String}
  {query : List (String × String)} {body : Option Value}

theorem failsClosed_send (context : String)
    (expected : shows (c.request method path query body) = Reply.trouble? (reportsSuccess read)) :
    FailsClosed shows (c.send context read method path query body) := by
  rw [send]
  refine FailsClosed.log ?_ _ _ _
  split
  · exact failsClosed_pure _
  rintro (_ | ⟨reply, left⟩)
  · exact .untroubled (List.forall_mem_nil _)
  cases readable : c.open? (c.request method path query body) context read reply with
  | ok envelope =>
    refine .untroubled (List.forall_mem_singleton.mpr ?_)
    rw [expected]
    exact trouble?_of_open?_ok readable
  | error failure =>
    obtain ⟨t, shown, told⟩ := trouble?_of_open?_error readable
    refine .troubled rfl (List.forall_mem_nil _) ?_ (congrArg some readable) told
    rw [expected]
    exact shown

theorem earns_send (context : String) : Earns (c.send context read method path query body) := by
  intro replies envelope good
  rw [send] at good ⊢
  split at good
  · cases good
  cases replies with
  | nil => cases good
  | cons reply left =>
    split
    · contradiction
    · exact List.cons_ne_nil _ _

theorem earns_fetch (context : String) : Earns (c.fetch context read method path query body) :=
  (earns_send context).bind fun _ => rfl

theorem earns_execute (context : String) : Earns (c.execute context method path body) :=
  (earns_send context).bind fun _ => rfl

theorem earns_operate (context account id : String) (body : Value) :
    Earns (c.operate context method account id body) :=
  (earns_fetch context).bind fun _ => rfl

theorem failsClosed_fetch (context : String)
    (expected : shows (c.request method path query body) = Reply.trouble? (reportsSuccess read)) :
    FailsClosed shows (c.fetch context read method path query body) := by
  refine (failsClosed_send context expected).bind (fun _ => rfl) fun envelope => ?_
  dsimp only
  cases envelope.result with
  | none => exact failsClosed_pure _
  | some result => exact failsClosed_pure _

theorem failsClosed_execute (context : String)
    (expected : shows (c.request method path [] body) = Reply.trouble? (reportsSuccess anything?)) :
    FailsClosed shows (c.execute context method path body) :=
  (failsClosed_send context expected).bind (fun _ => rfl) fun _ => failsClosed_pure _

theorem failsClosed_follow {κ β γ : Type} (g : Paging κ β γ)
    (expected : ∀ k, shows (c.pageRequest g k) = Reply.trouble? (reportsSuccess (Value.list? g.body)))
    (allowance : Nat) (k : κ) (found : List γ) :
    FailsClosed shows (c.follow g allowance k found) := by
  induction allowance generalizing k found with
  | zero => exact failsClosed_endless
  | succ allowance ih =>
    rw [follow_succ]
    refine (failsClosed_send _ (expected k)).bind (fun _ => rfl) fun envelope => ?_
    rcases (Except.ok envelope).bind (g.page k) with e | ⟨entries, _ | k'⟩
    · exact failsClosed_pure _
    · exact failsClosed_pure _
    · exact ih k' (found ++ entries)

theorem failsClosed_recordsFrom {zone name : String} {family : Family}
    (expected : ∀ page, shows (c.request .get (recordsPath zone) (recordsQuery name family page) none) =
      Reply.trouble? (reportsSuccess (Value.list? RecordBody.ofJson?))) (allowance : Nat)
    (page : UInt32) (found : List Record) :
    FailsClosed shows (c.recordsFrom zone name family allowance page found) := by
  rw [recordsFrom_eq]
  exact failsClosed_follow _ expected allowance page found

theorem failsClosed_itemsFrom {account id : String}
    (expected : ∀ cursor, shows (c.request .get (itemsPath account id) (itemsQuery cursor) none) =
      Reply.trouble? (reportsSuccess (Value.list? ItemBody.ofJson?))) (allowance : Nat)
    (cursor : Option String) (found : List ListItem) :
    FailsClosed shows (c.itemsFrom account id allowance cursor found) := by
  rw [itemsFrom_eq]
  exact failsClosed_follow _ expected allowance cursor found

theorem failsClosed_awaitOperation {account operation : String}
    (expected : shows (c.request .get (operationPath account operation) [] none) =
      Reply.trouble? (reportsSuccess OperationStatus.ofJson?)) (left : Nat) :
    FailsClosed shows (c.awaitOperation account operation left) := by
  induction left with
  | zero => exact failsClosed_pure _
  | succ left ih =>
    refine (failsClosed_fetch _ expected).bind (fun _ => rfl) fun answer => ?_
    dsimp only
    split
    · exact failsClosed_pure _
    split
    · exact failsClosed_pure _
    refine FailsClosed.log ?_ _ _ _
    split
    · exact ih.pause _
    · exact ih

theorem failsClosed_operate {account id : String} {body : Value} (context : String)
    (expected : shows (c.request method (itemsPath account id) [] (some body)) =
      Reply.trouble? (reportsSuccess operationOfJson?))
    (polled : ∀ operation, shows (c.request .get (operationPath account operation) [] none) =
      Reply.trouble? (reportsSuccess OperationStatus.ofJson?)) :
    FailsClosed shows (c.operate context method account id body) :=
  (failsClosed_fetch context expected).bind (fun _ => rfl) fun operation =>
    failsClosed_awaitOperation (polled operation) pollLimit

end Client

def Job.welcomes (r : Request) : Job → String → Bool
  | .call (.listZones _) => reportsSuccess (Value.list? ZoneBody.ofJson?)
  | .call (.listRecords ..) => reportsSuccess (Value.list? RecordBody.ofJson?)
  | .call (.createRecord ..) => reportsSuccess RecordBody.ofJson?
  | .call (.updateRecord ..) | .call (.deleteRecord ..) | .call (.deleteList ..) =>
    reportsSuccess anything?
  | .call (.listLists _) => reportsSuccess (Value.list? ListBody.ofJson?)
  | .call (.createList ..) => reportsSuccess ListBody.ofJson?
  | .call (.listItems ..) => reportsSuccess (Value.list? ItemBody.ofJson?)
  | .call (.createItems ..) | .call (.deleteItems ..) =>
    -- The change is sent, its operation is asked after, and then, where items were added, these are
    -- listed: only this last request has a query.
    if r.method ≠ .get then reportsSuccess operationOfJson?
    else if r.query = [] then reportsSuccess OperationStatus.ofJson?
    else reportsSuccess (Value.list? ItemBody.ofJson?)
  | .call (.replaceItems ..) => reportsSuccess operationOfJson?
  | .verifyToken => reportsSuccess tokenStatusOfJson?

/-- The trouble that the reply to one of the requests of a job shows. -/
def Job.trouble? (job : Job) (r : Request) (reply : Http.Reply) : Option Trouble :=
  reply.trouble? (job.welcomes r)

theorem Client.failsClosed_transact (c : Client) (allowance : Nat) (call : Call) :
    FailsClosed (Job.call call).trouble? (c.transact allowance call) := by
  cases call with
  | listZones name => exact (failsClosed_fetch _ rfl).bind (fun _ => rfl) fun _ => failsClosed_pure _
  | listRecords zone domain family => exact failsClosed_recordsFrom (fun _ => rfl) _ _ _
  | createRecord zone domain family address attributes =>
    exact (failsClosed_fetch _ rfl).bind (fun _ => rfl) fun _ => failsClosed_pure _
  | updateRecord zone domain family id address => exact failsClosed_execute _ rfl
  | deleteRecord zone id => exact failsClosed_execute _ rfl
  | listLists account => exact (failsClosed_fetch _ rfl).bind (fun _ => rfl) fun _ => failsClosed_pure _
  | createList account name description =>
    exact (failsClosed_fetch _ rfl).bind (fun _ => rfl) fun _ => failsClosed_pure _
  | deleteList account id => exact failsClosed_execute _ rfl
  | listItems account id => exact failsClosed_itemsFrom (fun _ => rfl) _ _ _
  | createItems account id blocks comment =>
    refine (failsClosed_operate _ rfl fun _ => rfl).bind (fun _ => rfl) fun _ => ?_
    exact (failsClosed_itemsFrom (fun _ => rfl) _ _ _).bind (fun _ => rfl) fun _ => failsClosed_pure _
  | deleteItems account id items => exact failsClosed_operate _ rfl fun _ => rfl
  | replaceItems account id blocks =>
    exact (failsClosed_fetch _ rfl).bind (fun _ => rfl) fun _ => (failsClosed_pure _).log _ _ _

theorem Client.failsClosed_verifyToken (c : Client) :
    FailsClosed Job.verifyToken.trouble? c.verifyToken := by
  refine (failsClosed_fetch _ rfl).bind (fun _ => rfl) fun status => ?_
  dsimp only
  split
  · exact failsClosed_pure _
  · exact (failsClosed_pure _).log _ _ _

theorem Client.earns_transact (c : Client) (allowance : Nat) (call : Call) :
    Earns (c.transact allowance call) := by
  cases call with
  | listZones | createRecord | listLists | createList | replaceItems =>
    exact (earns_fetch _).bind fun _ => rfl
  | updateRecord | deleteRecord | deleteList => exact earns_execute _
  | createItems => exact (earns_operate _ _ _ _).bind fun _ => rfl
  | deleteItems => exact earns_operate _ _ _ _
  | listRecords | listItems =>
    cases allowance with
    | zero => exact fun _ _ good => nomatch good
    | succ allowance => exact (earns_send _).bind fun _ => rfl

section

variable {c : Client} {job : Job}

theorem Client.carryOut_eq (live : c.trial = false) (allowance : Nat) (job : Job) :
    ∃ p, FailsClosed job.trouble? p ∧ Earns p ∧
      c.carryOut allowance job = p >>= fun result => pure (result, c) := by
  have does := c.carryOut_does allowance job
  generalize c.carryOut allowance job = p at does ⊢
  cases does with
  | verified => exact ⟨_, c.failsClosed_verifyToken, (earns_fetch _).bind fun _ => rfl, rfl⟩
  | refused objects => exact ⟨_, failsClosed_pure _, earns_error _, rfl⟩
  | transacted fits direct =>
    exact ⟨_, c.failsClosed_transact allowance _, c.earns_transact allowance _, rfl⟩
  | pretended fits trial =>
    rw [live] at trial
    cases trial

/-- Whatever is asked of a client that is not on trial, and whatever replies it gets: a good result
comes only after exchanges that all went well; the first exchange that did not is the last one, no
request is sent after it, and the result is the failure that it stands for. -/
theorem carryOut_fails_closed (live : c.trial = false) (allowance : Nat) (job : Job)
    (replies : List Http.Reply) :
    let d := dialogue (c.carryOut allowance job) replies
    (∀ good next, d.result? = some (.ok good, next) → d.exchanges ≠ [] ∧
      d.requests = d.exchanges.map Prod.fst ∧ ∀ e ∈ d.exchanges, job.trouble? e.1 e.2 = none) ∧
    ∀ before r reply after t, d.exchanges = before ++ (r, reply) :: after →
      job.trouble? r reply = some t → (∀ e ∈ before, job.trouble? e.1 e.2 = none) ∧
        d.requests = before.map Prod.fst ++ [r] ∧
          ∃ failure, d.result? = some (.error failure, c) ∧ failure.trouble? = some t := by
  obtain ⟨p, closes, earns, does⟩ := Client.carryOut_eq live allowance job
  have settled {a : Except Failure job.Reply} (result : (dialogue p replies).result? = some a) :
      (dialogue p replies).requests = (dialogue p replies).exchanges.map Prod.fst := by
    obtain ⟨ending, ended, -⟩ := Option.map_eq_some_iff.mp result
    exact requests_of_ending ended
  have closed := closes replies
  simp only [does, Dialogue.exchanges, Dialogue.requests, notes_bind_pure, result?_bind_pure]
  refine ⟨fun good next result => ?_, fun before r reply after t exchanges shown => ?_⟩
  · obtain ⟨_, came, same⟩ := Option.map_eq_some_iff.mp result
    cases same
    refine ⟨earns replies good came, settled came, ?_⟩
    cases closed with
    | untroubled none => exact none
    | troubled _ _ _ failed =>
      rw [came] at failed
      cases failed
  · obtain ⟨none, rfl, failure, result, told⟩ := closed.of_shown exchanges shown
    refine ⟨none, ?_, failure, by rw [result]; rfl, told⟩
    exact (settled result).trans ((congrArg _ exchanges).trans List.map_append)

end

def nearby : Client where
  token := "t"
  base := "http://localhost"
  trial := false
  words := plainWords

theorem carryOut_fails_closed_busy : nearby.trial = false ∧
    let job : Job := .call (.deleteItems "a" "l" ["i"])
    let d := dialogue (nearby.carryOut 9 job)
      [granted (.record [("operation_id", .text "o")]), granted (.record [("status", .text "pending")]),
        .response 429 "", granted (.record [("status", .text "completed")])]
    d.requests.map Request.method = [.delete, .get, .get] ∧
      ∃ failure, d.result? = some (.error failure, nearby) ∧ failure.trouble? = some .rateLimited := by
  refine ⟨rfl, by rfl, ?_⟩
  exact ((carryOut_fails_closed rfl 9 (.call (.deleteItems "a" "l" ["i"])) _).2
    [(nearby.request .delete (itemsPath "a" "l") [] (some (itemIdsBody ["i"])),
        granted (.record [("operation_id", .text "o")])),
      (nearby.request .get (operationPath "a" "o") [] none,
        granted (.record [("status", .text "pending")]))]
    (nearby.request .get (operationPath "a" "o") [] none) (.response 429 "") [] .rateLimited
    (by rfl) rfl).2.2

end Cloudflare

end AddressSync
