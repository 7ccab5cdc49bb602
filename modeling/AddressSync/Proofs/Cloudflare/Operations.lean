import AddressSync.Proofs.Cloudflare.Completeness
import AddressSync.Proofs.Cloudflare.Waiting

/-! Changes of the items of a list from the request that starts one to its end, whatever the replies
are; and, where these grant an addition, what comes of it. -/

namespace AddressSync.Cloudflare

open Http Json

variable {κ β γ : Type} {c : Client} {account id : String}

/-- Replies that lead from a key through pages to a last one, and the bodies that are on them. -/
inductive Paging.Serves (g : Paging κ β γ) : κ → List Reply → List β → Prop
  | last {k : κ} {reply : Reply} {envelope : Envelope (List β)} (opens : g.open? reply = .ok envelope)
    (ends : g.next k envelope.info = none) : Serves g k [reply] (envelope.result.getD [])
  | more {k k' : κ} {reply : Reply} {envelope : Envelope (List β)} {replies : List Reply}
    {bodies : List β} (opens : g.open? reply = .ok envelope)
    (next : g.next k envelope.info = some k') (rest : Serves g k' replies bodies) :
    Serves g k (reply :: replies) (envelope.result.getD [] ++ bodies)

/-- Replies to items that are added: the operation is taken, it is completed before twenty questions
are answered otherwise, and then so many pages at most list these bodies. -/
inductive Grants (account id : String) (allowance : Nat) : List Reply → List ItemBody → Prop
  | mk {start : Reply} {operation : String} {before : List Reply} {last : Reply}
    {pages : List Reply} {bodies : List ItemBody}
    (names : resultOf? operationOfJson? start = some operation)
    (undecided : ∀ reply ∈ before, IsUndecided reply) (soon : before.length < 20)
    (completed : Reports "completed" last) (serves : (itemPaging account id).Serves none pages bodies)
    (few : pages.length ≤ allowance) :
    Grants account id allowance (start :: (before ++ last :: pages)) bodies

namespace Client

section

variable (sendable : isHeaderValue c.token = true)

include sendable

theorem awaitOperation_completes {before : List Reply} (undecided : ∀ reply ∈ before, IsUndecided reply)
    {last : Reply} (completed : Reports "completed" last) {left : Nat} (soon : before.length < left)
    (account operation : String) (replies : List Reply) :
    (dialogue (c.awaitOperation account operation left) (before ++ last :: replies)).ending =
      some (.ok (), replies) := by
  induction before generalizing left with
  | nil =>
    obtain ⟨left, rfl⟩ : ∃ n, left = n + 1 := ⟨left - 1, by simp at soon; omega⟩
    obtain ⟨answer, answered, status⟩ := completed
    rw [awaitOperation, dialogue_bind, List.nil_append, dialogue_fetch_cons sendable, Dialogue.goOn,
      readResult_eq_ok_iff.mpr answered]
    dsimp only
    rw [if_pos status]
    rfl
  | cons reply before ih =>
    obtain ⟨here, later⟩ := List.forall_mem_cons.mp undecided
    obtain ⟨left, rfl⟩ : ∃ n, left = n + 2 := ⟨left - 2, by simp at soon; omega⟩
    obtain ⟨_, ⟨answer, answered, rfl⟩, incomplete, unfailed⟩ := here
    rw [awaitOperation, dialogue_bind, List.cons_append, dialogue_fetch_cons sendable, Dialogue.goOn,
      readResult_eq_ok_iff.mpr answered]
    dsimp only
    rw [if_neg incomplete, if_neg unfailed]
    exact ih later (by simpa using soon)

theorem follow_serves {g : Paging κ β γ} {k : κ} {replies : List Reply} {bodies : List β}
    (h : g.Serves k replies bodies) {allowance : Nat} (few : replies.length ≤ allowance)
    (found : List γ) :
    (dialogue (c.follow g allowance k found) replies).result? =
      some ((readBodies g.entry bodies).map (found ++ ·)) := by
  induction h generalizing allowance found with
  | @last k reply envelope opens ends =>
    obtain ⟨allowance, rfl⟩ : ∃ n, allowance = n + 1 := ⟨allowance - 1, by simp at few; omega⟩
    rw [dialogue_follow_cons sendable, Dialogue.result?_after, open?_eq_ok_iff.mpr opens, Except.bind,
      Paging.page, ends]
    cases readBodies g.entry (envelope.result.getD []) <;> rfl
  | @more k k' reply envelope replies bodies opens next rest ih =>
    obtain ⟨allowance, rfl⟩ : ∃ n, allowance = n + 1 := ⟨allowance - 1, by simp at few; omega⟩
    rw [dialogue_follow_cons sendable, Dialogue.result?_after, open?_eq_ok_iff.mpr opens, Except.bind,
      Paging.page, next, readBodies_append]
    cases readBodies g.entry (envelope.result.getD []) with
    | error e => rfl
    | ok entries =>
      refine (ih (Nat.le_of_succ_le_succ few) (found ++ entries)).trans ?_
      cases readBodies g.entry bodies with
      | error e => rfl
      | ok others => simp [Except.map, Except.bind]

theorem operate_completes {start : Reply} {operation : String}
    (names : resultOf? operationOfJson? start = some operation) {before : List Reply}
    (undecided : ∀ reply ∈ before, IsUndecided reply) (soon : before.length < 20) {last : Reply}
    (completed : Reports "completed" last) (context : String) (method : Method) (account id : String)
    (body : Value) (replies : List Reply) :
    (dialogue (c.operate context method account id body)
      (start :: (before ++ last :: replies))).ending = some (.ok (), replies) := by
  rw [operate, dialogue_bind, dialogue_fetch_cons sendable, Dialogue.goOn,
    readResult_eq_ok_iff.mpr names]
  exact awaitOperation_completes sendable undecided completed soon account operation replies

theorem createItems_granted {allowance : Nat} {replies : List Reply} {bodies : List ItemBody}
    (grants : Grants account id allowance replies bodies) {held : List ListItem}
    (all : List.Forall₂ ItemBody.Holds bodies held) (blocks : List Block) (comment : String) :
    (dialogue (c.transact allowance (.createItems account id blocks comment)) replies).result? =
      some (.ok (held.filter fun item => blocks.contains item.block)) := by
  cases grants with
  | @mk start operation before last pages bodies names undecided soon completed serves few =>
    have operated := operate_completes sendable names undecided soon completed
      "add IP list items" .post account id (newItemsBody blocks comment) pages
    have read : readBodies (itemPaging account id).entry bodies = .ok held :=
      converts_item.readBodies_ok all
    have listed := follow_serves sendable serves few []
    rw [read, Dialogue.result?, Option.map_eq_some_iff] at listed
    obtain ⟨⟨_, left⟩, ending, rfl⟩ := listed
    rw [transact, dialogue_bind, Dialogue.result?, Dialogue.ending_goOn operated]
    dsimp only
    rw [itemsFrom_eq, dialogue_bind, Dialogue.ending_goOn ending]
    rfl

theorem perform_lists (live : c.trial = false) {start : Reply} {operation : String}
    (names : resultOf? operationOfJson? start = some operation) {before : List Reply}
    (undecided : ∀ reply ∈ before, IsUndecided reply) (soon : before.length < 20) {last : Reply}
    (completed : Reports "completed" last) (allowance : Nat) (account id : String)
    (blocks : List Block) (comment : String) (first : Reply) (replies : List Reply) :
    (c.pageRequest (itemPaging account id) none, first) ∈
      (dialogue (c.perform (allowance + 1) (.createItems account id blocks comment))
        (start :: (before ++ last :: first :: replies))).exchanges := by
  have operated := operate_completes sendable names undecided soon completed "add IP list items"
    .post account id (newItemsBody blocks comment) (first :: replies)
  rw [perform_transacted rfl (.inl live), exchanges_bind_pure, transact, dialogue_bind,
    Dialogue.exchanges_goOn operated]
  dsimp only
  rw [itemsFrom_eq, dialogue_bind]
  refine List.mem_append_right _ (Dialogue.mem_exchanges_goOn ?_ _)
  rw [dialogue_follow_cons sendable, Dialogue.exchanges_after]
  exact List.mem_append_left _ List.mem_cons_self

theorem perform_granted (live : c.trial = false) {allowance : Nat} {replies : List Reply}
    {bodies : List ItemBody} (grants : Grants account id allowance replies bodies)
    {held : List ListItem} (all : List.Forall₂ ItemBody.Holds bodies held) (blocks : List Block)
    (comment : String) :
    (dialogue (c.perform allowance (.createItems account id blocks comment)) replies).result? =
      some (.ok (held.filter fun item => blocks.contains item.block), c) := by
  rw [perform_transacted rfl (.inl live), result?_bind_pure,
    createItems_granted sendable grants all]
  rfl

end

end Client

/-- Whatever a client that is not on trial is answered, it starts a change of items by one request and
then only asks after it, until that is decided or twenty questions were asked, half a second after one
another; a list that is to be replaced it does not ask after. -/
theorem operations_awaited (live : c.trial = false) (sendable : isHeaderValue c.token = true)
    (allowance : Nat) (replies : List Reply) :
    (∀ account id blocks comment,
      let r := c.request .post (itemsPath account id) [] (some (newItemsBody blocks comment))
      let d := dialogue (c.perform allowance (.createItems account id blocks comment)) replies
      c.Created account id blocks r d.steps (d.result?.map Prod.fst) ∧
        ∃ rest, d.requests = r :: rest ∧ ∀ r' ∈ rest, r'.method = .get) ∧
    (∀ account id ids,
      let r := c.request .delete (itemsPath account id) [] (some (itemIdsBody ids))
      let d := dialogue (c.perform allowance (.deleteItems account id ids)) replies
      c.Operated account "remove IP list items" r d.steps (d.result?.map Prod.fst) ∧
        ∃ rest, d.requests = r :: rest ∧ ∀ r' ∈ rest, r'.method = .get) ∧
    ∀ account id blocks,
      let r := c.request .put (itemsPath account id) [] (some (newItemsBody blocks ""))
      let d := dialogue (c.perform allowance (.replaceItems account id blocks)) replies
      ∃ reply, d.steps = [.exchange r reply] := by
  refine ⟨fun account id blocks comment => ?_, fun account id ids => ?_, fun account id blocks => ?_⟩
  · have created := Client.createItems_creates sendable allowance account id blocks comment replies
    dsimp only
    rw [Client.perform_transacted rfl (.inl live), Dialogue.requests_eq, steps_bind_pure,
      result?_bind_pure, Option.map_map]
    refine ⟨?_, created.requests⟩
    simpa only [Function.comp_def, Option.map_id'] using created
  · have operated := Client.operate_operates sendable "remove IP list items" .delete account id
      (itemIdsBody ids) replies
    dsimp only
    rw [Client.perform_transacted rfl (.inl live), Dialogue.requests_eq, steps_bind_pure,
      result?_bind_pure, Option.map_map]
    refine ⟨?_, operated.requests⟩
    simpa only [Client.transact, Function.comp_def, Option.map_id'] using operated
  · dsimp only
    rw [Client.perform_transacted rfl (.inl live), steps_bind_pure, Client.transact, dialogue_bind]
    cases replies with
    | nil =>
      rw [Client.dialogue_fetch_nil sendable]
      exact ⟨none, rfl⟩
    | cons reply replies =>
      rw [Client.dialogue_fetch_cons sendable, Dialogue.goOn]
      dsimp only
      cases c.readResult (c.request .put (itemsPath account id) [] (some (newItemsBody blocks "")))
        "replace IP list items" operationOfJson? reply with
      | error e => exact ⟨some reply, rfl⟩
      | ok operation => exact ⟨some reply, rfl⟩

theorem operations_awaited_pending : visitor.trial = false ∧ isHeaderValue visitor.token = true ∧
    let block := (Address.v4 0x0a000001).listedBlock
    let replies := [granted (.record [("operation_id", .text "o")]),
      granted (.record [("status", .text "pending")]),
      granted (.record [("status", .text "completed")]),
      granted (.array [.record [("id", .text "i"), ("ip", .text "10.0.0.2/32")],
        .record [("id", .text "j"), ("ip", .text "10.0.0.1/32")]])]
    let d := dialogue (visitor.perform 1 (.createItems "a" "l" [block] "")) replies
    d.result? = some (.ok [⟨"j", block⟩], visitor) ∧
      visitor.Created "a" "l" [block]
        (visitor.request .post (itemsPath "a" "l") [] (some (newItemsBody [block] "")))
        d.steps (some (.ok [⟨"j", block⟩])) := by
  have sendable : isHeaderValue visitor.token = true := by decide
  refine ⟨rfl, sendable, ?_⟩
  intro block replies d
  have pending : ∀ reply ∈ [granted (.record [("status", .text "pending")])], IsUndecided reply :=
    List.forall_mem_singleton.mpr (isUndecided_granted (by decide) (by decide))
  have page : (itemPaging "a" "l").open? (granted (.array [
      .record [("id", .text "i"), ("ip", .text "10.0.0.2/32")],
      .record [("id", .text "j"), ("ip", .text "10.0.0.1/32")]])) = .ok ⟨true, [],
        some [⟨"i", some "10.0.0.2/32"⟩, ⟨"j", some "10.0.0.1/32"⟩], none⟩ :=
    readReply_granted rfl rfl
  have grants := Grants.mk (resultOf?_operation "o") pending (by decide) reports_granted
    (.last page rfl) (Nat.le_refl 1)
  have all : List.Forall₂ ItemBody.Holds [⟨"i", some "10.0.0.2/32"⟩, ⟨"j", some "10.0.0.1/32"⟩]
      [⟨"i", (Address.v4 0x0a000002).listedBlock⟩, ⟨"j", block⟩] :=
    .cons ⟨⟨_, rfl, by decide⟩, rfl⟩ (.cons ⟨⟨_, rfl, by decide⟩, rfl⟩ .nil)
  have result : d.result? = some (.ok [⟨"j", block⟩], visitor) :=
    Client.perform_granted sendable rfl grants all [block] ""
  have created := ((operations_awaited rfl sendable 1 replies).1 "a" "l" [block] "").1
  refine ⟨result, ?_⟩
  change visitor.Created "a" "l" [block] _ d.steps (d.result?.map Prod.fst) at created
  rwa [result] at created

end AddressSync.Cloudflare
