import AddressSync.Proofs.Cloudflare.Courses

/-! Listings are complete, or they are none. Where a server leads from page to page up to a last one, a
listing gives all that the pages hold in their order; a body that does not fit, on whichever page,
makes it a failure. -/

namespace AddressSync.Cloudflare

open Http

variable {κ β γ : Type}

structure RecordBody.Holds (family : Family) (b : RecordBody) (r : Record) : Prop where
  type : b.type = family.recordType
  content : Address.parse? b.content = some r.address
  family : r.address.family = family
  id : r.id = b.id
  attributes : r.attributes = ⟨b.ttl, b.proxied, b.comment.getD ""⟩

structure ItemBody.Holds (b : ItemBody) (item : ListItem) : Prop where
  block : ∃ text, b.ip = some text ∧ Block.parse text = .ok item.block
  id : item.id = b.id

/-- Entries are read from the bodies that hold them, and others are invalid records. -/
structure Converts (holds : β → γ → Prop) (entry : β → Except Failure γ) : Prop where
  ok : ∀ b x, entry b = .ok x ↔ holds b x
  error : ∀ b e, entry b = .error e → ∃ detail, e = .invalidRecord detail

theorem converts_record (family : Family) :
    Converts (RecordBody.Holds family) (RecordBody.record family) where
  ok b r := by
    obtain ⟨id, address, attributes⟩ := r
    unfold RecordBody.record
    constructor
    · intro read
      split at read
      · cases read
      next type =>
        split at read
        · cases read
        next address content =>
          split at read
          · cases read
          next own =>
            cases read
            exact ⟨not_not.mp type, content, not_not.mp own, rfl, rfl⟩
    · rintro ⟨type, content, rfl, rfl, rfl⟩
      rw [if_neg (not_not.mpr type), content]
      exact if_neg (not_not.mpr rfl)
  error b e failed := by
    unfold RecordBody.record at failed
    split at failed
    · exact ⟨_, (Except.error.inj failed).symm⟩
    split at failed
    · exact ⟨_, (Except.error.inj failed).symm⟩
    split at failed
    · exact ⟨_, (Except.error.inj failed).symm⟩
    · cases failed

theorem converts_item : Converts ItemBody.Holds ItemBody.item where
  ok b item := by
    obtain ⟨id, block⟩ := item
    unfold ItemBody.item
    constructor
    · intro read
      split at read
      · cases read
      next text ip =>
        split at read
        next parsed =>
          cases read
          exact ⟨⟨text, ip, parsed⟩, rfl⟩
        · cases read
    · rintro ⟨⟨text, ip, parsed⟩, rfl⟩
      rw [ip]
      dsimp only
      rw [parsed]
  error b e failed := by
    unfold ItemBody.item at failed
    split at failed
    · exact ⟨_, (Except.error.inj failed).symm⟩
    split at failed
    · cases failed
    · exact ⟨_, (Except.error.inj failed).symm⟩

theorem readBodies_append (entry : β → Except Failure γ) (bodies rest : List β) :
    readBodies entry (bodies ++ rest) =
      (readBodies entry bodies).bind fun entries => (readBodies entry rest).map (entries ++ ·) := by
  induction bodies with
  | nil =>
    rw [List.nil_append]
    cases readBodies entry rest <;> rfl
  | cons body bodies ih =>
    rw [List.cons_append, readBodies, readBodies, ih]
    cases entry body with
    | error e => rfl
    | ok x =>
      cases readBodies entry bodies with
      | error e => rfl
      | ok entries => cases readBodies entry rest <;> rfl

section

variable {holds : β → γ → Prop} {entry : β → Except Failure γ} (converts : Converts holds entry)

include converts

theorem Converts.readBodies_ok {bodies : List β} {entries : List γ}
    (all : List.Forall₂ holds bodies entries) : readBodies entry bodies = .ok entries := by
  induction all with
  | nil => rfl
  | cons here _ ih =>
    rw [readBodies, (converts.ok _ _).mpr here, ih]
    rfl

theorem Converts.readBodies_error {bodies : List β} {body : β} (mem : body ∈ bodies)
    (none : ∀ x, ¬ holds body x) : ∃ detail, readBodies entry bodies = .error (.invalidRecord detail) := by
  induction bodies with
  | nil => cases mem
  | cons b bodies ih =>
    rw [readBodies]
    cases read : entry b with
    | error e =>
      obtain ⟨detail, rfl⟩ := converts.error b e read
      exact ⟨detail, rfl⟩
    | ok x =>
      rcases List.mem_cons.mp mem with rfl | mem
      · exact absurd ((converts.ok _ x).mp read) (none x)
      · obtain ⟨detail, failed⟩ := ih mem
        exact ⟨detail, by rw [failed]; rfl⟩

end

namespace Client

variable (c : Client) (server : Request → Reply) (g : Paging κ β γ)

/-- From a first key the server leads through these keys to a last one, and these are the bodies on the
way. -/
inductive Leads : κ → List κ → List β → Prop
  | last {k : κ} {envelope : Envelope (List β)}
    (opens : g.open? (c.replyFrom server (c.pageRequest g k)) = .ok envelope)
    (ends : g.next k envelope.info = none) : Leads k [k] (envelope.result.getD [])
  | more {k k' : κ} {envelope : Envelope (List β)} {ks : List κ} {bodies : List β}
    (opens : g.open? (c.replyFrom server (c.pageRequest g k)) = .ok envelope)
    (next : g.next k envelope.info = some k') (rest : Leads k' ks bodies) :
    Leads k (k :: ks) (envelope.result.getD [] ++ bodies)

variable {c server g} {k : κ} {ks : List κ} {bodies : List β}

theorem Leads.result (h : c.Leads server g k ks bodies) {allowance : Nat}
    (enough : ks.length ≤ allowance) (found : List γ) :
    (visit server (c.follow g allowance k found)).result? =
      some ((readBodies g.entry bodies).map (found ++ ·)) := by
  induction h generalizing allowance found with
  | @last k envelope opens ends =>
    obtain ⟨allowance, rfl⟩ : ∃ n, allowance = n + 1 := ⟨allowance - 1, by simp at enough; omega⟩
    rw [visit_follow_succ, Dialogue.result?_after, pageAt_of_opens opens, ends]
    cases readBodies g.entry (envelope.result.getD []) <;> rfl
  | @more k k' envelope ks bodies opens next rest ih =>
    obtain ⟨allowance, rfl⟩ : ∃ n, allowance = n + 1 := ⟨allowance - 1, by simp at enough; omega⟩
    rw [visit_follow_succ, Dialogue.result?_after, pageAt_of_opens opens, next, readBodies_append]
    cases readBodies g.entry (envelope.result.getD []) with
    | error e => rfl
    | ok entries =>
      refine (ih (Nat.le_of_succ_le_succ enough) (found ++ entries)).trans ?_
      cases readBodies g.entry bodies with
      | error e => rfl
      | ok others => simp [Except.map, Except.bind]

theorem Leads.keys (h : c.Leads server g k ks bodies) (n : Nat) :
    c.keys server g k n <+: ks ∧
      ∀ entries, readBodies g.entry bodies = .ok entries → ks.length ≤ n →
        c.keys server g k n = ks := by
  induction h generalizing n with
  | @last k envelope opens ends =>
    have last : c.keyAfter server g k = none := by
      rw [keyAfter, pageAt_of_opens opens, ends]
      cases readBodies g.entry (envelope.result.getD []) <;> rfl
    cases n with
    | zero => exact ⟨List.nil_prefix, fun _ _ enough => by cases enough⟩
    | succ n =>
      rw [c.keys_succ_of_last server g last]
      exact ⟨List.prefix_refl _, fun _ _ _ => rfl⟩
  | @more k k' envelope ks bodies opens next rest ih =>
    cases n with
    | zero => exact ⟨List.nil_prefix, fun _ _ enough => by cases enough⟩
    | succ n =>
      cases read : readBodies g.entry (envelope.result.getD []) with
      | error e =>
        have last : c.keyAfter server g k = none := by
          rw [keyAfter, pageAt_of_opens opens, read]
          rfl
        rw [c.keys_succ_of_last server g last]
        refine ⟨List.prefix_iff_eq_append.mpr rfl, fun entries all _ => ?_⟩
        rw [readBodies_append, read] at all
        cases all
      | ok found =>
        have after : c.keyAfter server g k = some k' := by
          rw [keyAfter, pageAt_of_opens opens, read, next]
          rfl
        obtain ⟨got, whole⟩ := ih n
        rw [c.keys_succ_of_after server g after]
        refine ⟨(List.prefix_cons_inj k).mpr got, fun entries all enough => ?_⟩
        rw [readBodies_append, read] at all
        cases others : readBodies g.entry bodies with
        | error e =>
          rw [others] at all
          cases all
        | ok rest => rw [whole rest others (Nat.le_of_succ_le_succ enough)]

theorem entries_of_readBodies {P : γ → Prop} {entry : β → Except Failure γ}
    (sound : ∀ body x, entry body = .ok x → P x) {entries : List γ}
    (read : readBodies entry bodies = .ok entries) : ∀ x ∈ entries, P x := by
  induction bodies generalizing entries with
  | nil =>
    cases read
    exact List.forall_mem_nil P
  | cons body bodies ih =>
    rw [readBodies] at read
    cases here : entry body with
    | error e =>
      rw [here] at read
      cases read
    | ok x =>
      cases rest : readBodies entry bodies with
      | error e =>
        rw [here, rest] at read
        cases read
      | ok xs =>
        rw [here, rest] at read
        cases read
        exact List.forall_mem_cons.mpr ⟨sound body x here, ih rest⟩

theorem entries_of_follow {P : γ → Prop} (sound : ∀ body x, g.entry body = .ok x → P x)
    {allowance : Nat} {found entries : List γ} (before : ∀ x ∈ found, P x)
    (returned : (visit server (c.follow g allowance k found)).result? = some (.ok entries)) :
    ∀ x ∈ entries, P x := by
  induction allowance generalizing k found with
  | zero => cases returned
  | succ allowance ih =>
    rw [visit_follow_succ, Dialogue.result?_after] at returned
    cases opens : g.open? (c.replyFrom server (c.pageRequest g k)) with
    | error defect =>
      rw [pageAt_of_defect opens] at returned
      cases returned
    | ok envelope =>
      rw [pageAt_of_opens opens] at returned
      cases read : readBodies g.entry (envelope.result.getD []) with
      | error e =>
        rw [read] at returned
        cases returned
      | ok xs =>
        have so_far : ∀ x ∈ found ++ xs, P x :=
          List.forall_mem_append.mpr ⟨before, entries_of_readBodies sound read⟩
        rw [read] at returned
        cases next : g.next k envelope.info with
        | none =>
          rw [next] at returned
          cases returned
          exact so_far
        | some k' =>
          rw [next] at returned
          exact ih so_far returned

/-- What comes of a listing for which the server holds these bodies: all of them in their order if
every one holds an entry, asked for by these requests; and else no entries, but a failure. -/
structure Completes {α : Type} (holds : β → γ → Prop) (bodies : List β) (asked : List Request)
    (d : Dialogue (Except Failure (List γ) × α)) (a : α) : Prop where
  all : ∀ entries, List.Forall₂ holds bodies entries →
    d.requests = asked ∧ d.result? = some (.ok entries, a)
  nothing : (∃ body ∈ bodies, ∀ x, ¬ holds body x) →
    d.requests <+: asked ∧ ∃ detail, d.result? = some (.error (.invalidRecord detail), a)

theorem Leads.completes (h : c.Leads server g k ks bodies) (sendable : isHeaderValue c.token = true)
    {holds : β → γ → Prop} (converts : Converts holds g.entry) {allowance : Nat}
    (enough : ks.length ≤ allowance) :
    Completes holds bodies (ks.map (c.pageRequest g))
      (visit server (c.follow g allowance k [] >>= fun result => pure (result, c))) c := by
  have asked : (visit server (c.follow g allowance k [] >>= fun result => pure (result, c))).requests =
      (c.keys server g k allowance).map (c.pageRequest g) := by
    rw [visit_bind_pure]
    exact (visit_follow allowance k []).1.trans (if_pos sendable)
  have result :
      (visit server (c.follow g allowance k [] >>= fun result => pure (result, c))).result? =
        some (readBodies g.entry bodies, c) := by
    rw [visit_bind_pure, Dialogue.result?, Option.map_map]
    have came := h.result enough []
    rw [Dialogue.result?, Option.map_eq_some_iff] at came
    obtain ⟨⟨came, left⟩, ending, rfl⟩ := came
    rw [ending]
    cases readBodies g.entry bodies <;> rfl
  obtain ⟨got, whole⟩ := h.keys allowance
  refine ⟨fun entries all => ?_, fun unheld => ?_⟩
  · have read := converts.readBodies_ok all
    rw [asked, result, whole entries read enough, read]
    exact ⟨rfl, rfl⟩
  · obtain ⟨body, mem, unheld⟩ := unheld
    obtain ⟨detail, read⟩ := converts.readBodies_error mem unheld
    rw [asked, result, read]
    exact ⟨got.map _, detail, rfl⟩

variable (c server)

/-- At the server the records of a name have these pages: each tells its number and how many there are,
or there is one that tells nothing. -/
structure ServesRecords (zone name : String) (family : Family) (pages : List (List RecordBody)) :
    Prop where
  nonempty : pages ≠ []
  page : ∀ i (h : i < pages.length), ∃ envelope,
    (recordPaging zone name family).open?
        (server (c.request .get (recordsPath zone) (recordsQuery name family (.ofNat (i + 1)))
          none)) =
      .ok envelope ∧ envelope.result.getD [] = pages[i] ∧
        ((∃ after, envelope.info = some ⟨some (i + 1), some pages.length, after⟩) ∨
          pages.length = 1 ∧ envelope.info = none)

/-- At the server the items of a list that are behind a cursor have these pages, each but the last
naming the cursor of the next. -/
inductive ServesItems (account id : String) :
    Option String → List String → List (List ItemBody) → Prop
  | last {cursor : Option String} {envelope : Envelope (List ItemBody)}
    (opens : (itemPaging account id).open?
      (server (c.request .get (itemsPath account id) (itemsQuery cursor) none)) = .ok envelope)
    (ends : ∀ after, envelope.info.bind PageInfo.after = some after → after = "") :
    ServesItems account id cursor [] [envelope.result.getD []]
  | more {cursor : Option String} {after : String} {envelope : Envelope (List ItemBody)}
    {cursors : List String} {pages : List (List ItemBody)}
    (opens : (itemPaging account id).open?
      (server (c.request .get (itemsPath account id) (itemsQuery cursor) none)) = .ok envelope)
    (names : envelope.info.bind PageInfo.after = some after) (proper : after ≠ "")
    (rest : ServesItems account id (some after) cursors pages) :
    ServesItems account id cursor (after :: cursors) (envelope.result.getD [] :: pages)

variable {c server}

theorem next?_eq (info : Option PageInfo) :
    info.bind PageInfo.next? = (info.bind PageInfo.after).filter (· ≠ "") := by
  cases info <;> rfl

theorem ServesItems.leads {account id : String} {cursor : Option String} {cursors : List String}
    {pages : List (List ItemBody)} (h : c.ServesItems server account id cursor cursors pages)
    (sendable : isHeaderValue c.token = true) :
    c.Leads server (itemPaging account id) cursor (cursor :: cursors.map some) pages.flatten := by
  have came (r : Request) : c.replyFrom server r = server r := if_pos sendable
  induction h with
  | @last cursor envelope opens ends =>
    rw [List.flatten_singleton]
    refine .last ((congrArg _ (came _)).trans opens) ?_
    change (envelope.info.bind PageInfo.next?).map some = none
    rw [next?_eq]
    cases named : envelope.info.bind PageInfo.after with
    | none => rfl
    | some after =>
      rw [ends after named]
      rfl
  | @more cursor after envelope cursors pages opens names proper rest ih =>
    rw [List.flatten_cons]
    refine .more ((congrArg _ (came _)).trans opens) ?_ ih
    change (envelope.info.bind PageInfo.next?).map some = some (some after)
    rw [next?_eq, names, Option.filter_some, if_pos (by simpa using proper)]
    rfl

theorem ServesItems.length_pages {account id : String} {cursor : Option String}
    {cursors : List String} {pages : List (List ItemBody)}
    (h : c.ServesItems server account id cursor cursors pages) :
    pages.length = cursors.length + 1 := by
  induction h with
  | last => rfl
  | more _ _ _ _ ih => exact congrArg (· + 1) ih

theorem ServesRecords.leads {zone name : String} {family : Family}
    {pages : List (List RecordBody)} (h : c.ServesRecords server zone name family pages)
    (sendable : isHeaderValue c.token = true) :
    c.Leads server (recordPaging zone name family) 1
      ((List.range' 1 pages.length).map UInt32.ofNat) pages.flatten := by
  have came (r : Request) : c.replyFrom server r = server r := if_pos sendable
  -- From any page on: as many pages are left as there are numbers up to the last one.
  have onward (n : Nat) (rest : List (List RecordBody)) (left : pages.drop n = rest)
      (some : rest ≠ []) : c.Leads server (recordPaging zone name family) (.ofNat (n + 1))
        ((List.range' (n + 1) rest.length).map UInt32.ofNat) rest.flatten := by
    induction rest generalizing n with
    | nil => exact absurd rfl some
    | cons page rest ih =>
      have short : n < pages.length := by
        refine Nat.lt_of_not_le fun long => ?_
        rw [List.drop_eq_nil_of_le long] at left
        cases left
      rw [List.drop_eq_getElem_cons short, List.cons.injEq] at left
      obtain ⟨rfl, left⟩ := left
      obtain ⟨envelope, opens, held, told⟩ := h.page n short
      have opens := (congrArg (recordPaging zone name family).open? (came _)).trans opens
      have many : pages.length = n + 1 + rest.length := by
        have length := congrArg List.length left
        rw [List.length_drop] at length
        omega
      rw [← held, List.flatten_cons, List.length_cons, List.range'_succ,
        List.map_cons]
      cases rest with
      | nil =>
        rw [List.flatten_nil, List.append_nil]
        refine .last opens (if_neg ?_)
        rcases told with ⟨after, info⟩ | ⟨_, info⟩
        · rw [info, many]
          simp [PageInfo.hasNext]
        · simp [info]
      | cons page' rest =>
        have next : UInt32.ofNat (n + 1) + 1 = .ofNat (n + 1 + 1) :=
          (UInt32.ofNat_add (n + 1) 1).symm
        refine .more opens (next ▸ if_pos ?_) (ih (n + 1) left (List.cons_ne_nil _ _))
        rw [List.length_cons] at many
        rcases told with ⟨after, info⟩ | ⟨single, _⟩
        · rw [info, many]
          simp [PageInfo.hasNext]
        · omega
  exact onward 0 pages rfl h.nonempty

end Client

/-- A listing of what a server holds page by page gives all of it, from as many requests as there are
pages, or fails if a body does not fit; so a record that is listed has an address of the family. -/
theorem listings_complete {c : Client} (sendable : isHeaderValue c.token = true)
    (server : Request → Reply) :
    (∀ zone (domain : Domain) family pages,
      c.ServesRecords server zone domain.print family pages → ∀ allowance, pages.length ≤ allowance →
        Client.Completes (RecordBody.Holds family) pages.flatten
          ((List.range pages.length).map fun i => c.request .get (recordsPath zone)
            (Client.recordsQuery domain.print family (.ofNat (i + 1))) none)
          (visit server (c.perform allowance (.listRecords zone domain family))) c) ∧
    (∀ account id cursors pages,
      c.ServesItems server account id none cursors pages → ∀ allowance, pages.length ≤ allowance →
        Client.Completes ItemBody.Holds pages.flatten
          ((none :: cursors.map some).map fun cursor => c.request .get (itemsPath account id)
            (Client.itemsQuery cursor) none)
          (visit server (c.perform allowance (.listItems account id))) c) ∧
    ∀ zone (domain : Domain) family allowance records,
      (visit server (c.perform allowance (.listRecords zone domain family))).result? =
        some (.ok records, c) → ∀ r ∈ records, r.address.family = family := by
  refine ⟨fun zone domain family pages serves allowance enough => ?_,
    fun account id cursors pages serves allowance enough => ?_,
    fun zone domain family allowance records returned => ?_⟩
  · have asked : ((List.range' 1 pages.length).map UInt32.ofNat).map
          (c.pageRequest (recordPaging zone domain.print family)) =
        (List.range pages.length).map fun i => c.request .get (recordsPath zone)
          (Client.recordsQuery domain.print family (.ofNat (i + 1))) none := by
      rw [List.range'_eq_map_range, List.map_map, List.map_map]
      refine List.map_congr_left fun i _ => ?_
      rw [Function.comp_apply, Function.comp_apply, Nat.add_comm]
      rfl
    rw [Client.perform_listRecords, ← asked]
    refine (serves.leads sendable).completes sendable (converts_record family) ?_
    rwa [List.length_map, List.length_range']
  · rw [Client.perform_listItems]
    refine (serves.leads sendable).completes sendable converts_item ?_
    rwa [List.length_cons, List.length_map, ← serves.length_pages]
  · rw [Client.perform_listRecords, visit_bind_pure, Dialogue.result?, Option.map_map,
      Option.map_eq_some_iff] at returned
    obtain ⟨⟨result, left⟩, ending, same⟩ := returned
    have result : (visit server (c.follow (recordPaging zone domain.print family) allowance 1
        [])).result? = some (.ok records) := by
      rw [Dialogue.result?, ending]
      exact congrArg some (Prod.mk.inj same).1
    refine Client.entries_of_follow (fun body r read => ?_) (List.forall_mem_nil _) result
    exact ((converts_record family).ok body r |>.mp read).family

def shelves (r : Request) : Reply :=
  let page (entry : Json.Value) (info : List (String × Json.Value)) : Reply :=
    .response 200 (Json.Value.record [("success", .bool true), ("result", .array [entry]),
      ("result_info", .record info)]).print
  let record (id content : String) : Json.Value :=
    .record [("id", .text id), ("type", .text "A"), ("content", .text content)]
  let item (id ip : String) : Json.Value := .record [("id", .text id), ("ip", .text ip)]
  if r.query.contains ("page", "1") then
    page (record "r" "10.0.0.1") [("page", .nat 1), ("total_pages", .nat 2)]
  else if r.query.contains ("page", "2") then
    page (record "s" "10.0.0.2") [("page", .nat 2), ("total_pages", .nat 2)]
  else if r.query.contains ("cursor", "c") then
    page (item "j" "10.0.0.2/32") [("cursors", .record [("after", .text "")])]
  else page (item "i" "10.0.0.1/32") [("cursors", .record [("after", .text "c")])]

theorem shelves_records : visitor.ServesRecords shelves "z" "www.example.com" .v4
    [[⟨"r", "A", "10.0.0.1", 1, false, none⟩], [⟨"s", "A", "10.0.0.2", 1, false, none⟩]] where
  nonempty := List.cons_ne_nil _ _
  page
    | 0, _ => ⟨⟨true, [], some [⟨"r", "A", "10.0.0.1", 1, false, none⟩], some ⟨some 1, some 2, none⟩⟩,
        readReply_print rfl rfl rfl, rfl, .inl ⟨none, rfl⟩⟩
    | 1, _ => ⟨⟨true, [], some [⟨"s", "A", "10.0.0.2", 1, false, none⟩], some ⟨some 2, some 2, none⟩⟩,
        readReply_print rfl rfl rfl, rfl, .inl ⟨none, rfl⟩⟩

theorem shelves_items : visitor.ServesItems shelves "a" "l" none ["c"]
    [[⟨"i", some "10.0.0.1/32"⟩], [⟨"j", some "10.0.0.2/32"⟩]] := by
  have first : (itemPaging "a" "l").open?
      (shelves (visitor.request .get (itemsPath "a" "l") (Client.itemsQuery none) none)) =
        .ok ⟨true, [], some [⟨"i", some "10.0.0.1/32"⟩], some ⟨none, none, some "c"⟩⟩ :=
    readReply_print rfl rfl rfl
  have second : (itemPaging "a" "l").open?
      (shelves (visitor.request .get (itemsPath "a" "l") (Client.itemsQuery (some "c")) none)) =
        .ok ⟨true, [], some [⟨"j", some "10.0.0.2/32"⟩], some ⟨none, none, some ""⟩⟩ :=
    readReply_print rfl rfl rfl
  exact .more first rfl (by decide) (.last second fun _ named => (Option.some.inj named).symm)

theorem listings_complete_shelved : isHeaderValue visitor.token = true ∧
    (visit shelves (visitor.perform 2 (.listRecords "z" (.plain "www.example.com") .v4))).result? =
      some (.ok [⟨"r", .v4 0x0a000001, {}⟩, ⟨"s", .v4 0x0a000002, {}⟩], visitor) ∧
    (visit shelves (visitor.perform 2 (.listItems "a" "l"))).result? =
      some (.ok [⟨"i", (Address.v4 0x0a000001).listedBlock⟩, ⟨"j", (Address.v4 0x0a000002).listedBlock⟩],
        visitor) ∧
    Family.v4 = (Address.v4 0x0a000001).family := by
  have sendable : isHeaderValue visitor.token = true := by decide
  obtain ⟨records, items, ofFamily⟩ := listings_complete sendable shelves
  have listed := ((records "z" (.plain "www.example.com") .v4 _ shelves_records 2 (by decide)).all
    [⟨"r", .v4 0x0a000001, {}⟩, ⟨"s", .v4 0x0a000002, {}⟩]
    (.cons ⟨rfl, by decide, rfl, rfl, rfl⟩ (.cons ⟨rfl, by decide, rfl, rfl, rfl⟩ .nil))).2
  refine ⟨sendable, listed, ?_, (ofFamily _ _ _ _ _ listed _ (List.mem_cons_self ..)).symm⟩
  exact ((items "a" "l" _ _ shelves_items 2 (by decide)).all
    [⟨"i", (Address.v4 0x0a000001).listedBlock⟩, ⟨"j", (Address.v4 0x0a000002).listedBlock⟩]
    (.cons ⟨⟨_, rfl, by decide⟩, rfl⟩ (.cons ⟨⟨_, rfl, by decide⟩, rfl⟩ .nil))).2

end AddressSync.Cloudflare
