import AddressSync.Proofs.Cloudflare.Courses

/-! Changes of the items of a list that run on at the server. One request starts such a change; then it
is asked after, time and again with a pause between, until an answer decides it or the questions are
used up. What was added is read back by a whole listing behind that. -/

namespace AddressSync.Cloudflare

open Http

variable {α κ β γ : Type} {c : Client} {context : String} {read : Json.Value → Option α}

def resultOf? (read : Json.Value → Option α) (reply : Reply) : Option α :=
  match readReply read reply with
  | .error _ => none
  | .ok envelope => envelope.result

def Client.readResult (c : Client) (r : Request) (context : String) (read : Json.Value → Option α)
    (reply : Reply) : Except Failure α :=
  match c.open? r context read reply with
  | .error e => .error e
  | .ok envelope =>
    match envelope.result with
    | some result => .ok result
    | none => .error (problem (context ++ ": response has no result"))

theorem Client.readResult_eq_ok_iff {r : Request} {reply : Reply} {result : α} :
    c.readResult r context read reply = .ok result ↔ resultOf? read reply = some result := by
  unfold readResult open? resultOf?
  rcases readReply read reply with defect | ⟨success, errors, _ | result', info⟩ <;>
    simp [Except.mapError]

def Reports (status : String) (reply : Reply) : Prop :=
  ∃ answer, resultOf? OperationStatus.ofJson? reply = some answer ∧ answer.status = status

def IsUndecided (reply : Reply) : Prop :=
  ∃ status, Reports status reply ∧ status ≠ "completed" ∧ status ≠ "failed"

theorem resultOf?_granted {v : Json.Value} {result : α} (plain : v.isPlain = true)
    (reads : Json.nullable read v = some (some result)) :
    resultOf? read (granted v) = some result := by
  rw [resultOf?, readReply_granted plain reads]

theorem resultOf?_operation (operation : String) :
    resultOf? operationOfJson? (granted (.record [("operation_id", .text operation)])) =
      some operation :=
  resultOf?_granted rfl rfl

theorem reports_granted {status : String} :
    Reports status (granted (.record [("status", .text status)])) :=
  ⟨⟨status, none⟩, resultOf?_granted rfl rfl, rfl⟩

theorem isUndecided_granted {status : String} (incomplete : status ≠ "completed")
    (unfailed : status ≠ "failed") : IsUndecided (granted (.record [("status", .text status)])) :=
  ⟨status, reports_granted, incomplete, unfailed⟩

/-- The questions after an operation, each with its reply if that has come, and what they come to. All
answers but the last leave it undecided, and so does the last one only if no question was left. -/
inductive Awaited (c : Client) (r : Request) :
    (limit : Nat) → List (Option Reply) → Option (Except Failure Unit) → Prop
  | waiting {limit : Nat} (before : List Reply) (undecided : ∀ reply ∈ before, IsUndecided reply)
    (left : before.length < limit) : Awaited c r limit (before.map some ++ [none]) none
  | completed {limit : Nat} (before : List Reply) (undecided : ∀ reply ∈ before, IsUndecided reply)
    (left : before.length < limit) (reply : Reply) (told : Reports "completed" reply) :
    Awaited c r limit (before.map some ++ [some reply]) (some (.ok ()))
  | failed {limit : Nat} (before : List Reply) (undecided : ∀ reply ∈ before, IsUndecided reply)
    (left : before.length < limit) (reply : Reply) (told : Reports "failed" reply) (detail : String) :
    Awaited c r limit (before.map some ++ [some reply])
      (some (.error (.provider providerName detail)))
  | broken {limit : Nat} (before : List Reply) (undecided : ∀ reply ∈ before, IsUndecided reply)
    (left : before.length < limit) (reply : Reply) (e : Failure)
    (unread : c.readResult r "poll list operation" OperationStatus.ofJson? reply = .error e) :
    Awaited c r limit (before.map some ++ [some reply]) (some (.error e))
  | exhausted (before : List Reply) (undecided : ∀ reply ∈ before, IsUndecided reply)
    (detail : String) :
    Awaited c r before.length (before.map some) (some (.error (.provider providerName detail)))

namespace Awaited

variable {r : Request} {limit : Nat} {polls : List (Option Reply)}
  {result : Option (Except Failure Unit)}

theorem cons (h : Awaited c r limit polls result) {reply : Reply} (undecided : IsUndecided reply) :
    Awaited c r (limit + 1) (some reply :: polls) result := by
  cases h with
  | waiting before rest left =>
    exact .waiting (reply :: before) (List.forall_mem_cons.mpr ⟨undecided, rest⟩)
      (Nat.succ_lt_succ left)
  | completed before rest left last told =>
    exact .completed (reply :: before) (List.forall_mem_cons.mpr ⟨undecided, rest⟩)
      (Nat.succ_lt_succ left) last told
  | failed before rest left last told detail =>
    exact .failed (reply :: before) (List.forall_mem_cons.mpr ⟨undecided, rest⟩)
      (Nat.succ_lt_succ left) last told detail
  | broken before rest left last e unread =>
    exact .broken (reply :: before) (List.forall_mem_cons.mpr ⟨undecided, rest⟩)
      (Nat.succ_lt_succ left) last e unread
  | exhausted before rest detail =>
    exact .exhausted (reply :: before) (List.forall_mem_cons.mpr ⟨undecided, rest⟩) detail

theorem exists_cons (h : Awaited c r (limit + 1) polls result) : ∃ poll rest, polls = poll :: rest := by
  refine List.exists_cons_of_ne_nil fun empty => ?_
  generalize some_left : limit + 1 = left at h
  cases h with
  | waiting | completed | failed | broken => simp at empty
  | exhausted before =>
    rw [List.map_eq_nil_iff.mp empty] at some_left
    cases some_left

end Awaited

/-- Pages that lead from one to the next, each with the reply that it is, up to one that leads no further;
and what they hold. -/
inductive Paging.Reads (g : Paging κ β γ) : κ → List (κ × Reply) → List γ → Prop
  | last (k : κ) (reply : Reply) (envelope : Envelope (List β)) (entries : List γ)
    (opens : g.open? reply = .ok envelope) (page : g.page k envelope = .ok (entries, none)) :
    Reads g k [(k, reply)] entries
  | more (k k' : κ) (reply : Reply) (envelope : Envelope (List β)) (entries : List γ)
    (pages : List (κ × Reply)) (rest : List γ) (opens : g.open? reply = .ok envelope)
    (page : g.page k envelope = .ok (entries, some k')) (later : Reads g k' pages rest) :
    Reads g k ((k, reply) :: pages) (entries ++ rest)

namespace Client

def pollRequest (c : Client) (account operation : String) : Request :=
  c.request .get (operationPath account operation) [] none

/-- How a change comes along that runs on: its request names an operation, or fails, and then the
operation is asked after twenty times at most, every half second. -/
inductive Operated (c : Client) (account context : String) (r : Request) :
    List Note → Option (Except Failure Unit) → Prop
  | unanswered : Operated c account context r [.exchange r none] none
  | refused (reply : Reply) (e : Failure)
    (unread : c.readResult r context operationOfJson? reply = .error e) :
    Operated c account context r [.exchange r (some reply)] (some (.error e))
  | taken (reply : Reply) (operation : String) (polls : List (Option Reply))
    (result : Option (Except Failure Unit))
    (names : resultOf? operationOfJson? reply = some operation)
    (awaited : Awaited c (c.pollRequest account operation) 20 polls result) :
    Operated c account context r
      (.exchange r (some reply) ::
        (polls.map (.exchange (c.pollRequest account operation))).intersperse (.pause 500)) result

/-- How items come to be added: once the operation is completed the list is read from its beginning to
its end, and of what it holds the items of the blocks are returned. -/
inductive Created (c : Client) (account id : String) (blocks : List Block) (r : Request) :
    List Note → Option (Except Failure (List ListItem)) → Prop
  | waiting (steps : List Note)
    (operated : c.Operated account "add IP list items" r steps none) :
    Created c account id blocks r steps none
  | failed (steps : List Note) (e : Failure)
    (operated : c.Operated account "add IP list items" r steps (some (.error e))) :
    Created c account id blocks r steps (some (.error e))
  | unlisted (steps asked : List Note) (result : Option (Except Failure (List ListItem)))
    (operated : c.Operated account "add IP list items" r steps (some (.ok ())))
    (asks : ∀ note ∈ asked, ∃ cursor reply,
      note = .exchange (c.pageRequest (itemPaging account id) cursor) reply)
    (fails : ∀ items, result ≠ some (.ok items)) :
    Created c account id blocks r (steps ++ asked) result
  | listed (steps : List Note) (pages : List (Option String × Reply)) (held : List ListItem)
    (operated : c.Operated account "add IP list items" r steps (some (.ok ())))
    (reads : (itemPaging account id).Reads none pages held) :
    Created c account id blocks r
      (steps ++ pages.map fun page =>
        .exchange (c.pageRequest (itemPaging account id) page.1) (some page.2))
      (some (.ok (held.filter fun item => blocks.contains item.block)))

section

variable {account id : String} {r : Request} {steps : List Note}

theorem Operated.polls {result : Option (Except Failure Unit)}
    (h : c.Operated account context r steps result) :
    ∃ rest, steps.filterMap Note.request? = r :: rest ∧
      ∀ r' ∈ rest, ∃ operation, r' = c.pollRequest account operation := by
  cases h with
  | unanswered => exact ⟨[], rfl, List.forall_mem_nil _⟩
  | refused reply e unread => exact ⟨[], rfl, List.forall_mem_nil _⟩
  | taken reply operation polls result names awaited =>
    refine ⟨_, rfl, ?_⟩
    rw [requests_intersperse, List.filterMap_map]
    intro r' mem
    obtain ⟨poll, _, same⟩ := List.mem_filterMap.mp mem
    cases same
    exact ⟨operation, rfl⟩

theorem Operated.requests {result : Option (Except Failure Unit)}
    (h : c.Operated account context r steps result) :
    ∃ rest, steps.filterMap Note.request? = r :: rest ∧ ∀ r' ∈ rest, r'.method = .get := by
  obtain ⟨rest, same, polls⟩ := h.polls
  refine ⟨rest, same, ?_⟩
  intro r' mem
  obtain ⟨operation, rfl⟩ := polls r' mem
  rfl

theorem Created.requests {blocks : List Block} {result : Option (Except Failure (List ListItem))}
    (h : c.Created account id blocks r steps result) :
    ∃ rest, steps.filterMap Note.request? = r :: rest ∧ ∀ r' ∈ rest, r'.method = .get := by
  have append {steps asked : List Note}
      (first : ∃ rest, steps.filterMap Note.request? = r :: rest ∧ ∀ r' ∈ rest, r'.method = .get)
      (asks : ∀ note ∈ asked, ∃ cursor reply,
        note = .exchange (c.pageRequest (itemPaging account id) cursor) reply) :
      ∃ rest, (steps ++ asked).filterMap Note.request? = r :: rest ∧
        ∀ r' ∈ rest, r'.method = .get := by
    obtain ⟨rest, same, gets⟩ := first
    refine ⟨rest ++ asked.filterMap Note.request?, ?_, ?_⟩
    · rw [List.filterMap_append, same, List.cons_append]
    · refine List.forall_mem_append.mpr ⟨gets, fun r' mem => ?_⟩
      obtain ⟨note, mem, same⟩ := List.mem_filterMap.mp mem
      obtain ⟨cursor, reply, rfl⟩ := asks note mem
      cases same
      rfl
  cases h with
  | waiting steps operated => exact operated.requests
  | failed steps e operated => exact operated.requests
  | unlisted steps asked result operated asks fails => exact append operated.requests asks
  | listed steps pages held operated reads =>
    refine append operated.requests fun note mem => ?_
    obtain ⟨page, _, rfl⟩ := List.mem_map.mp mem
    exact ⟨page.1, some page.2, rfl⟩

end

section

variable (sendable : isHeaderValue c.token = true)

include sendable

theorem dialogue_send_nil (context : String) (read : Json.Value → Option α) (method : Method)
    (path : String) (query : List (String × String)) (body : Option Json.Value) :
    dialogue (c.send context read method path query body) [] =
      ⟨[announcement method path, .exchange (c.request method path query body) none], none⟩ := by
  rw [send, sendable]
  rfl

theorem dialogue_send_cons (context : String) (read : Json.Value → Option α) (method : Method)
    (path : String) (query : List (String × String)) (body : Option Json.Value) (reply : Reply)
    (left : List Reply) :
    dialogue (c.send context read method path query body) (reply :: left) =
      ⟨[announcement method path, .exchange (c.request method path query body) (some reply)],
        some (c.open? (c.request method path query body) context read reply, left)⟩ := by
  rw [send, sendable]
  rfl

theorem dialogue_fetch_nil (context : String) (read : Json.Value → Option α) (method : Method)
    (path : String) (query : List (String × String)) (body : Option Json.Value) :
    dialogue (c.fetch context read method path query body) [] =
      ⟨[announcement method path, .exchange (c.request method path query body) none], none⟩ := by
  rw [fetch, dialogue_bind, dialogue_send_nil sendable]
  rfl

theorem dialogue_fetch_cons (context : String) (read : Json.Value → Option α) (method : Method)
    (path : String) (query : List (String × String)) (body : Option Json.Value) (reply : Reply)
    (left : List Reply) :
    dialogue (c.fetch context read method path query body) (reply :: left) =
      ⟨[announcement method path, .exchange (c.request method path query body) (some reply)],
        some (c.readResult (c.request method path query body) context read reply, left)⟩ := by
  rw [fetch, dialogue_bind, dialogue_send_cons sendable, Dialogue.goOn, readResult]
  rcases c.open? (c.request method path query body) context read reply with
    e | ⟨success, errors, _ | result, info⟩ <;> rfl

theorem awaitOperation_awaits (account operation : String) (left : Nat) (replies : List Reply) :
    ∃ polls,
      Awaited c (c.pollRequest account operation) left polls
          (dialogue (c.awaitOperation account operation left) replies).result? ∧
        (dialogue (c.awaitOperation account operation left) replies).steps =
          (polls.map (Note.exchange (c.pollRequest account operation))).intersperse
            (.pause pollDelay) := by
  induction left generalizing replies with
  | zero => exact ⟨[], .exhausted [] (List.forall_mem_nil _) _, rfl⟩
  | succ left ih =>
    rw [awaitOperation, dialogue_bind]
    cases replies with
    | nil =>
      rw [dialogue_fetch_nil sendable]
      exact ⟨[none], .waiting [] (List.forall_mem_nil _) left.succ_pos, rfl⟩
    | cons reply replies =>
      rw [dialogue_fetch_cons sendable, Dialogue.goOn]
      dsimp only
      cases answered : c.readResult (c.request .get (operationPath account operation) [] none)
        "poll list operation" OperationStatus.ofJson? reply with
      | error e =>
        exact ⟨[some reply], .broken [] (List.forall_mem_nil _) left.succ_pos reply e answered, rfl⟩
      | ok answer =>
        dsimp only
        have told : Reports answer.status reply := ⟨answer, readResult_eq_ok_iff.mp answered, rfl⟩
        by_cases completed : answer.status = "completed"
        · rw [if_pos completed]
          rw [completed] at told
          exact ⟨[some reply], .completed [] (List.forall_mem_nil _) left.succ_pos reply told, rfl⟩
        rw [if_neg completed]
        by_cases failed : answer.status = "failed"
        · rw [if_pos failed]
          rw [failed] at told
          exact ⟨[some reply], .failed [] (List.forall_mem_nil _) left.succ_pos reply told _, rfl⟩
        rw [if_neg failed]
        have undecided : IsUndecided reply := ⟨_, told, completed, failed⟩
        obtain ⟨polls, awaited, steps⟩ := ih replies
        cases left with
        | zero =>
          exact ⟨[some reply], .exhausted [reply] (List.forall_mem_singleton.mpr undecided) _, rfl⟩
        | succ left =>
          refine ⟨some reply :: polls, awaited.cons undecided, ?_⟩
          -- A question is left, so that there is a pause before it.
          obtain ⟨poll, polls, rfl⟩ := awaited.exists_cons
          rw [List.map_cons, List.map_cons, List.intersperse_cons_cons, ← List.map_cons, ← steps]
          rfl

theorem operate_operates (context : String) (method : Method) (account id : String)
    (body : Json.Value) (replies : List Reply) :
    c.Operated account context (c.request method (itemsPath account id) [] (some body))
      (dialogue (c.operate context method account id body) replies).steps
      (dialogue (c.operate context method account id body) replies).result? := by
  rw [operate, dialogue_bind]
  cases replies with
  | nil =>
    rw [dialogue_fetch_nil sendable]
    exact .unanswered
  | cons reply replies =>
    rw [dialogue_fetch_cons sendable, Dialogue.goOn]
    dsimp only
    cases answered : c.readResult (c.request method (itemsPath account id) [] (some body)) context
      operationOfJson? reply with
    | error e => exact .refused reply e answered
    | ok operation =>
      obtain ⟨polls, awaited, steps⟩ :=
        awaitOperation_awaits sendable account operation pollLimit replies
      rw [Dialogue.steps_after, steps]
      exact .taken reply operation polls _ (readResult_eq_ok_iff.mp answered) awaited

theorem dialogue_follow_cons (g : Paging κ β γ) (allowance : Nat) (k : κ) (found : List γ)
    (reply : Reply) (replies : List Reply) :
    dialogue (c.follow g (allowance + 1) k found) (reply :: replies) =
      (dialogue (c.proceed g allowance found ((c.open? (c.pageRequest g k) g.context
          (Json.Value.list? g.body) reply).bind (g.page k))) replies).after
        [announcement .get g.path, .exchange (c.pageRequest g k) (some reply)] := by
  rw [follow_succ, dialogue_bind, dialogue_send_cons sendable]
  rfl

theorem follow_reads (g : Paging κ β γ) (allowance : Nat) (k : κ) (found : List γ)
    (replies : List Reply) :
    (∀ note ∈ (dialogue (c.follow g allowance k found) replies).steps,
        ∃ k reply, note = .exchange (c.pageRequest g k) reply) ∧
      ∀ entries, (dialogue (c.follow g allowance k found) replies).result? = some (.ok entries) →
        ∃ pages rest, g.Reads k pages rest ∧ entries = found ++ rest ∧
          (dialogue (c.follow g allowance k found) replies).steps =
            pages.map fun page => .exchange (c.pageRequest g page.1) (some page.2) := by
  induction allowance generalizing k found replies with
  | zero => exact ⟨List.forall_mem_nil _, nofun⟩
  | succ allowance ih =>
    cases replies with
    | nil =>
      rw [follow_succ, dialogue_bind, dialogue_send_nil sendable]
      exact ⟨List.forall_mem_singleton.mpr ⟨k, none, rfl⟩, nofun⟩
    | cons reply replies =>
      rw [dialogue_follow_cons sendable, Dialogue.steps_after, Dialogue.result?_after]
      have asked : [announcement .get g.path, .exchange (c.pageRequest g k) (some reply)].filter
          Note.isStep = [.exchange (c.pageRequest g k) (some reply)] := rfl
      rw [asked, List.singleton_append, List.forall_mem_cons]
      cases opens : g.open? reply with
      | error defect =>
        rw [open?_eq_error_iff.mpr ⟨defect, opens, rfl⟩]
        exact ⟨⟨⟨k, some reply, rfl⟩, List.forall_mem_nil _⟩, nofun⟩
      | ok envelope =>
      rw [open?_eq_ok_iff.mpr opens, Except.bind]
      rcases page : g.page k envelope with e | ⟨xs, _ | k'⟩
      · exact ⟨⟨⟨k, some reply, rfl⟩, List.forall_mem_nil _⟩, nofun⟩
      · refine ⟨⟨⟨k, some reply, rfl⟩, List.forall_mem_nil _⟩, fun entries returned => ?_⟩
        cases returned
        exact ⟨[(k, reply)], xs, .last k reply envelope xs opens page, rfl, rfl⟩
      · obtain ⟨sent, returns⟩ := ih k' (found ++ xs) replies
        refine ⟨⟨⟨k, some reply, rfl⟩, sent⟩, fun entries returned => ?_⟩
        obtain ⟨pages, rest, reads, rfl, steps⟩ := returns entries returned
        refine ⟨(k, reply) :: pages, xs ++ rest,
          .more k k' reply envelope xs pages rest opens page reads, ?_, ?_⟩
        · rw [List.append_assoc]
        · rw [List.map_cons, ← steps]
          rfl

theorem createItems_creates (allowance : Nat) (account id : String) (blocks : List Block)
    (comment : String) (replies : List Reply) :
    c.Created account id blocks
      (c.request .post (itemsPath account id) [] (some (newItemsBody blocks comment)))
      (dialogue (c.transact allowance (.createItems account id blocks comment)) replies).steps
      (dialogue (c.transact allowance (.createItems account id blocks comment)) replies).result? := by
  have operated := operate_operates sendable "add IP list items" .post account id
    (newItemsBody blocks comment) replies
  rw [transact, dialogue_bind]
  generalize dialogue (c.operate "add IP list items" .post account id
    (newItemsBody blocks comment)) replies = d at operated ⊢
  obtain ⟨notes, _ | ⟨e | ⟨⟩, left⟩⟩ := d
  · exact .waiting _ operated
  · rw [Dialogue.goOn, Dialogue.steps_after, Dialogue.result?_after]
    exact (List.append_nil _).symm ▸ .failed _ e operated
  · rw [Dialogue.goOn, Dialogue.steps_after, Dialogue.result?_after]
    dsimp only
    rw [itemsFrom_eq, dialogue_bind]
    obtain ⟨asks, lists⟩ := follow_reads sendable (itemPaging account id) allowance none [] left
    generalize dialogue (c.follow (itemPaging account id) allowance none []) left = d at asks lists ⊢
    obtain ⟨asked, _ | ⟨e | held, left⟩⟩ := d
    · exact .unlisted _ _ none operated asks fun _ same => by cases same
    · rw [Dialogue.goOn, Dialogue.steps_after, Dialogue.result?_after]
      exact (List.append_nil _).symm ▸ .unlisted _ _ _ operated asks fun _ same => by cases same
    · obtain ⟨pages, held, reads, rfl, steps⟩ := lists held rfl
      rw [Dialogue.goOn, Dialogue.steps_after, Dialogue.result?_after]
      have steps : asked.filter Note.isStep = pages.map fun page =>
        Note.exchange (c.pageRequest (itemPaging account id) page.1) (some page.2) := steps
      rw [steps]
      exact (List.append_nil _).symm ▸ .listed _ pages held operated reads

end

end Client

end AddressSync.Cloudflare
