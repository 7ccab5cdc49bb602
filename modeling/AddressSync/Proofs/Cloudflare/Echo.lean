import AddressSync.Proofs.Address.RoundTrip
import AddressSync.Proofs.Cloudflare.Operations
import AddressSync.Proofs.Cloudflare.Requests

/-! What is sent comes back. The items of a list go to the server with the texts of their blocks, and
where it lists them with such a text they are read as the same blocks, and so known again as what was
added. -/

namespace AddressSync.Cloudflare

open Http Json

variable {κ β γ : Type} {c : Client} {b : Block} {account id : String}

def ItemBody.Echoes (body : ItemBody) (b : Block) : Prop :=
  ∃ text, body.ip = some text ∧ b.IsText text

theorem ItemBody.Echoes.item {body : ItemBody} (echoes : body.Echoes b) :
    body.item = .ok ⟨body.id, b⟩ := by
  obtain ⟨text, ip, written⟩ := echoes
  apply (converts_item.ok _ _).mpr
  exact ⟨⟨text, ip, Block.parse_of_isText written⟩, rfl⟩

theorem mem_of_readBodies {entry : β → Except Failure γ} {bodies : List β} {entries : List γ}
    (read : readBodies entry bodies = .ok entries) {body : β} (mem : body ∈ bodies) {x : γ}
    (here : entry body = .ok x) : x ∈ entries := by
  induction bodies generalizing entries with
  | nil => cases mem
  | cons first bodies ih =>
    rw [readBodies] at read
    cases head : entry first with
    | error e =>
      rw [head] at read
      cases read
    | ok y =>
      cases rest : readBodies entry bodies with
      | error e =>
        rw [head, rest] at read
        cases read
      | ok ys =>
        rw [head, rest] at read
        cases read
        rcases List.mem_cons.mp mem with rfl | later
        · rw [head] at here
          cases here
          exact List.mem_cons_self
        · exact List.mem_cons_of_mem _ (ih rest later)

theorem Paging.Reads.mem {g : Paging κ β γ} {k : κ} {pages : List (κ × Reply)} {held : List γ}
    (h : g.Reads k pages held) {page : κ × Reply} (among : page ∈ pages) {envelope : Envelope (List β)}
    (opens : g.open? page.2 = .ok envelope) {body : β} (mem : body ∈ envelope.result.getD []) {x : γ}
    (here : g.entry body = .ok x) : x ∈ held := by
  have within {k : κ} {envelope' : Envelope (List β)} {entries : List γ} {next : Option κ}
      (opens' : g.open? page.2 = .ok envelope') (read : g.page k envelope' = .ok (entries, next)) :
      x ∈ entries := by
    rw [opens] at opens'
    cases opens'
    rw [Paging.page] at read
    cases bodies : readBodies g.entry (envelope.result.getD []) with
    | error e =>
      rw [bodies] at read
      cases read
    | ok found =>
      rw [bodies] at read
      cases read
      exact mem_of_readBodies bodies mem here
  induction h with
  | last k reply envelope' entries opens' read =>
    rw [List.mem_singleton] at among
    subst among
    exact within opens' read
  | more k k' reply envelope' entries pages rest opens' read later ih =>
    rcases List.mem_cons.mp among with rfl | behind
    · exact List.mem_append_left _ (within opens' read)
    · exact List.mem_append_right _ (ih behind)

namespace Client

theorem Created.mem_of_echoes {blocks : List Block} {comment : String} {steps : List Note}
    {items : List ListItem}
    (h : c.Created account id blocks
      (c.request .post (itemsPath account id) [] (some (newItemsBody blocks comment))) steps
      (some (.ok items)))
    {cursor : Option String} {reply : Reply}
    (asked : (c.pageRequest (itemPaging account id) cursor, reply) ∈ steps.filterMap Note.exchange?)
    {envelope : Envelope (List ItemBody)} (opens : (itemPaging account id).open? reply = .ok envelope)
    {body : ItemBody} (mem : body ∈ envelope.result.getD []) (wanted : b ∈ blocks)
    (echoes : body.Echoes b) : ⟨body.id, b⟩ ∈ items := by
  cases h with
  | unlisted steps asked result operated asks fails => exact absurd rfl (fails items)
  | listed steps pages held operated reads =>
    rw [List.filterMap_append, List.mem_append] at asked
    rcases asked with before | behind
    · -- Neither the addition itself nor a question after it asks for a page.
      obtain ⟨rest, requests, polls⟩ := operated.polls
      have among := mem_requests_of_mem_exchanges before
      rw [requests] at among
      rcases List.mem_cons.mp among with same | later
      · cases congrArg Request.method same
      · obtain ⟨operation, same⟩ := polls _ later
        cases congrArg Request.query same
    · obtain ⟨note, among, same⟩ := List.mem_filterMap.mp behind
      obtain ⟨page, shown, rfl⟩ := List.mem_map.mp among
      have came : page.2 = reply := congrArg Prod.snd (Option.some.inj same)
      apply List.mem_filter.mpr
      refine ⟨reads.mem shown (by rwa [came]) mem echoes.item, ?_⟩
      simpa using wanted

theorem dialogue_send_unsendable {α : Type} (unsendable : isHeaderValue c.token = false)
    (context : String) (read : Value → Option α) (method : Method) (path : String)
    (query : List (String × String)) (body : Option Value) (replies : List Reply) :
    dialogue (c.send context read method path query body) replies =
      ⟨[announcement method path],
        some (c.open? (c.request method path query body) context read unbuilt, replies)⟩ := by
  rw [send, unsendable]
  rfl

theorem createItems_echoed {allowance : Nat} {blocks : List Block} {comment : String}
    {replies : List Reply} {items : List ListItem} {next : Client}
    (returned : (dialogue (c.perform allowance (.createItems account id blocks comment))
      replies).result? = some (.ok items, next))
    {cursor : Option String} {reply : Reply}
    (asked : (c.pageRequest (itemPaging account id) cursor, reply) ∈
      (dialogue (c.perform allowance (.createItems account id blocks comment)) replies).exchanges)
    {envelope : Envelope (List ItemBody)} (opens : (itemPaging account id).open? reply = .ok envelope)
    {body : ItemBody} (mem : body ∈ envelope.result.getD []) (wanted : b ∈ blocks)
    (echoes : body.Echoes b) : ⟨body.id, b⟩ ∈ items := by
  cases trial : c.trial with
  | true =>
    -- What is only tried is told of, and nothing is sent.
    have mutates : (Call.createItems account id blocks comment).isMutation = true := rfl
    obtain ⟨_, _, _, _, _, -, -, pretended⟩ := perform_pretended rfl trial mutates
    rw [pretended] at asked
    cases asked
  | false =>
    rw [perform_transacted rfl (.inl trial)] at returned asked
    rw [exchanges_bind_pure] at asked
    cases sendable : isHeaderValue c.token with
    | false =>
      rw [transact, operate, fetch, bind_assoc, bind_assoc, dialogue_bind,
        dialogue_send_unsendable sendable] at asked
      cases asked
    | true =>
      rw [result?_bind_pure, Option.map_eq_some_iff] at returned
      obtain ⟨result, answer, same⟩ := returned
      cases same
      have created := createItems_creates sendable allowance account id blocks comment replies
      rw [answer] at created
      rw [Dialogue.exchanges_eq] at asked
      exact created.mem_of_echoes asked opens mem wanted echoes

end Client

/-- Blocks of addresses outlive the wire. A block is read from what is printed for it, and from its
address alone where it holds no other. What is sent to add items are these texts, and once the server
lists such a text, the item is read with the same block and is among those that are returned. -/
theorem items_echoed (c : Client) (allowance : Nat) (account id : String) (blocks : List Block)
    (comment : String) :
    (∀ (b : Block) text, b.IsText text → Block.parse text = .ok b) ∧
    (∀ (b : Block) body, ItemBody.Echoes body b → body.item = .ok ⟨body.id, b⟩) ∧
    (∀ replies,
      let d := dialogue (c.perform allowance (.createItems account id blocks comment)) replies
      (∀ r ∈ d.requests, r.method = .get ∨
        r.body = some (.array (blocks.map fun b =>
          .record (("ip", .text b.print) :: textField "comment" comment)))) ∧
      ∀ items next, d.result? = some (.ok items, next) → ∀ cursor reply envelope,
        (c.pageRequest (itemPaging account id) cursor, reply) ∈ d.exchanges →
          (itemPaging account id).open? reply = .ok envelope →
            ∀ body ∈ envelope.result.getD [], ∀ b ∈ blocks, body.Echoes b → ⟨body.id, b⟩ ∈ items) ∧
    (c.trial = false → isHeaderValue c.token = true → ∀ replies bodies held,
      Grants account id allowance replies bodies → List.Forall₂ ItemBody.Holds bodies held →
        ∃ items, (dialogue (c.perform allowance (.createItems account id blocks comment))
            replies).result? = some (.ok items, c) ∧
          ∀ body ∈ bodies, ∀ b ∈ blocks, body.Echoes b → ⟨body.id, b⟩ ∈ items) := by
  refine ⟨fun b text => Block.parse_of_isText, fun b body => ItemBody.Echoes.item, ?_, ?_⟩
  · intro replies d
    refine ⟨?_, ?_⟩
    · apply SendsOnly.requests
      apply Client.sendsOnly_carryOut (fun _ _ => .inl rfl)
        (.call (.createItems account id blocks comment)) allowance
      intro _ call same r change
      cases same
      cases change
      exact .inr rfl
    · intro items next returned cursor reply envelope asked opens body mem b wanted echoes
      exact Client.createItems_echoed returned asked opens mem wanted echoes
  · intro live sendable replies bodies held grants all
    refine ⟨held.filter fun item => blocks.contains item.block, ?_, ?_⟩
    · exact Client.perform_granted sendable live grants all blocks comment
    · intro body mem b wanted echoes
      apply List.mem_filter.mpr
      refine ⟨mem_of_readBodies (converts_item.readBodies_ok all) mem echoes.item, ?_⟩
      simpa using wanted

theorem items_echoed_bare : visitor.trial = false ∧ isHeaderValue visitor.token = true ∧
    let block := (Address.v4 0x0a000001).listedBlock
    let listed := granted (.array [.record [("id", .text "i"), ("ip", .text "10.0.0.2/32")],
      .record [("id", .text "j"), ("ip", .text " 10.0.0.1")]])
    let replies := [granted (.record [("operation_id", .text "o")]),
      granted (.record [("status", .text "pending")]),
      granted (.record [("status", .text "completed")]), listed]
    let d := dialogue (visitor.perform 1 (.createItems "a" "l" [block] "")) replies
    block.IsText " 10.0.0.1" ∧ Block.parse " 10.0.0.1" = .ok block ∧
      ItemBody.item ⟨"j", some " 10.0.0.1"⟩ = .ok ⟨"j", block⟩ ∧
      (visitor.pageRequest (itemPaging "a" "l") none, listed) ∈ d.exchanges ∧
      ∃ items, d.result? = some (.ok items, visitor) ∧ ⟨"j", block⟩ ∈ items := by
  have sendable : isHeaderValue visitor.token = true := by decide
  refine ⟨rfl, sendable, ?_⟩
  intro block listed replies d
  have blank : ∀ c ∈ [' '] ++ [], Text.isBlank c = true := List.forall_mem_singleton.mpr (by decide)
  have written : block.IsText " 10.0.0.1" := .inr ⟨rfl, [' '], [], by decide, blank⟩
  have echoes : ItemBody.Echoes ⟨"j", some " 10.0.0.1"⟩ block := ⟨_, rfl, written⟩
  have opens : (itemPaging "a" "l").open? listed = .ok ⟨true, [],
      some [⟨"i", some "10.0.0.2/32"⟩, ⟨"j", some " 10.0.0.1"⟩], none⟩ := readReply_granted rfl rfl
  have pending : ∀ reply ∈ [granted (.record [("status", .text "pending")])], IsUndecided reply :=
    List.forall_mem_singleton.mpr (isUndecided_granted (by decide) (by decide))
  have grants := Grants.mk (resultOf?_operation "o") pending (by decide) reports_granted
    (.last opens rfl) (Nat.le_refl 1)
  have shown : (visitor.pageRequest (itemPaging "a" "l") none, listed) ∈ d.exchanges :=
    Client.perform_lists sendable rfl (resultOf?_operation "o") pending (by decide)
      reports_granted 0 "a" "l" [block] "" listed []
  obtain ⟨reads, converts, returns, gives⟩ := items_echoed visitor 1 "a" "l" [block] ""
  have all : List.Forall₂ ItemBody.Holds [⟨"i", some "10.0.0.2/32"⟩, ⟨"j", some " 10.0.0.1"⟩]
      [⟨"i", (Address.v4 0x0a000002).listedBlock⟩, ⟨"j", block⟩] :=
    .cons ⟨⟨_, rfl, by decide⟩, rfl⟩ (.cons ⟨⟨_, rfl, reads _ _ written⟩, rfl⟩ .nil)
  obtain ⟨items, result, -⟩ := gives rfl sendable replies _ _ grants all
  refine ⟨written, reads _ _ written, converts _ _ echoes, shown, items, result, ?_⟩
  exact (returns replies).2 items visitor result none listed _ shown opens _
    (List.mem_cons_of_mem _ List.mem_cons_self) block List.mem_cons_self echoes

end AddressSync.Cloudflare
