import Mathlib.Data.List.Nodup
import Mathlib.Data.Nat.Find
import Mathlib.Logic.Function.Iterate
import AddressSync.Proofs.Cloudflare.Paging
import AddressSync.Proofs.Cloudflare.Trouble
import AddressSync.Proofs.Http.Visit

/-! How far a listing goes that comes page by page is up to the server, which tells with each page whether
there is another: it returns where an answer does not lead on, having asked for no page twice, and asks
on for as long as each answer does. -/

namespace AddressSync.Cloudflare

open Http

variable {κ β γ : Type}

namespace Client

variable (c : Client) (server : Request → Reply) (g : Paging κ β γ)

theorem perform_listRecords (allowance : Nat) (zone : String) (domain : Domain) (family : Family) :
    c.perform allowance (.listRecords zone domain family) =
      c.follow (recordPaging zone domain.print family) allowance 1 [] >>= fun result =>
        pure (result, c) := by
  rw [← recordsFrom_eq]
  exact perform_transacted rfl (.inr rfl) allowance

theorem perform_listItems (allowance : Nat) (account id : String) :
    c.perform allowance (.listItems account id) =
      c.follow (itemPaging account id) allowance none [] >>= fun result => pure (result, c) := by
  rw [← itemsFrom_eq]
  exact perform_transacted rfl (.inr rfl) allowance

def replyFrom (r : Request) : Reply := if isHeaderValue c.token then server r else unbuilt

def pageAt (k : κ) : Except Failure (List γ × Option κ) :=
  (c.open? (c.pageRequest g k) g.context (Json.Value.list? g.body)
    (c.replyFrom server (c.pageRequest g k))).bind (g.page k)

def keyAfter (k : κ) : Option κ :=
  match c.pageAt server g k with
  | .error _ => none
  | .ok (_, next) => next

def keyAt (start : κ) (n : Nat) : Option κ := (Option.bind · (c.keyAfter server g))^[n] (some start)

def keys (start : κ) (n : Nat) : List κ := (List.range n).filterMap (c.keyAt server g start)

theorem keyAt_zero (start : κ) : c.keyAt server g start 0 = some start := rfl

theorem keyAt_succ (start : κ) (n : Nat) :
    c.keyAt server g start (n + 1) = (c.keyAt server g start n).bind (c.keyAfter server g) :=
  Function.iterate_succ_apply' ..

theorem keyAt_succ_of_after {k k' : κ} (next : c.keyAfter server g k = some k') (n : Nat) :
    c.keyAt server g k (n + 1) = c.keyAt server g k' n := by
  rw [keyAt, keyAt, Function.iterate_succ_apply, Option.bind_some, next]

theorem keyAt_succ_of_last {k : κ} (last : c.keyAfter server g k = none) (n : Nat) :
    c.keyAt server g k (n + 1) = none := by
  rw [keyAt, Function.iterate_succ_apply, Option.bind_some, last]
  exact Function.iterate_fixed rfl n

theorem keys_succ_of_after {k k' : κ} (next : c.keyAfter server g k = some k') (n : Nat) :
    c.keys server g k (n + 1) = k :: c.keys server g k' n := by
  rw [keys, List.range_succ_eq_map, List.filterMap_cons_some (c.keyAt_zero server g k),
    List.filterMap_map]
  exact congrArg (fun f => k :: List.filterMap f (List.range n))
    (funext (c.keyAt_succ_of_after server g next))

theorem keys_succ_of_last {k : κ} (last : c.keyAfter server g k = none) (n : Nat) :
    c.keys server g k (n + 1) = [k] := by
  rw [keys, List.range_succ_eq_map, List.filterMap_cons_some (c.keyAt_zero server g k),
    List.filterMap_map]
  refine congrArg (k :: ·) (List.filterMap_eq_nil_iff.mpr fun i _ => ?_)
  exact c.keyAt_succ_of_last server g last i

def sent (r : Request) : List Note :=
  if isHeaderValue c.token then [.exchange r (some (server r))] else []

theorem requests_sent (rs : List Request) :
    (rs.flatMap (c.sent server)).filterMap Note.request? =
      if isHeaderValue c.token then rs else [] := by
  by_cases sendable : isHeaderValue c.token = true
  · rw [if_pos sendable]
    induction rs with
    | nil => rfl
    | cons r rs ih =>
      rw [List.flatMap_cons, List.filterMap_append, ih, sent, if_pos sendable]
      rfl
  · rw [if_neg sendable]
    refine List.filterMap_eq_nil_iff.mpr fun note mem => ?_
    obtain ⟨r, _, mem⟩ := List.mem_flatMap.mp mem
    rw [sent, if_neg sendable] at mem
    cases mem

def announcement (method : Method) (path : String) : Note :=
  .log ⟨.debug, "Cloudflare API request", [("method", .text method.word), ("path", .text path)]⟩

theorem visit_send {α : Type} (context : String) (read : Json.Value → Option α) (method : Method)
    (path : String) (query : List (String × String)) (body : Option Json.Value) :
    visit server (c.send context read method path query body) =
      ⟨announcement method path :: c.sent server (c.request method path query body),
        some (c.open? (c.request method path query body) context read
          (c.replyFrom server (c.request method path query body)), [])⟩ := by
  rw [send, replyFrom, sent]
  by_cases sendable : isHeaderValue c.token = true
  · simp only [sendable]
    rfl
  · simp only [sendable]
    rfl

def pageNotes (k : κ) : List Note :=
  announcement .get g.path :: c.sent server (c.pageRequest g k)

theorem visit_follow_succ (allowance : Nat) (k : κ) (found : List γ) :
    visit server (c.follow g (allowance + 1) k found) =
      (visit server (c.proceed g allowance found (c.pageAt server g k))).after
        (c.pageNotes server g k) := by
  rw [follow_succ, visit_bind, visit_send]
  rfl

variable {c server g}

theorem pageAt_of_opens {k : κ} {envelope : Envelope (List β)}
    (opens : g.open? (c.replyFrom server (c.pageRequest g k)) = .ok envelope) :
    c.pageAt server g k =
      (readBodies g.entry (envelope.result.getD [])).map (·, g.next k envelope.info) := by
  rw [pageAt, open?_eq_ok_iff.mpr opens]
  rfl

theorem pageAt_of_defect {k : κ} {defect : Defect}
    (defective : g.open? (c.replyFrom server (c.pageRequest g k)) = .error defect) :
    c.pageAt server g k = .error (c.failure (c.pageRequest g k) g.context defect) := by
  rw [pageAt, open?_eq_error_iff.mpr ⟨defect, defective, rfl⟩]
  rfl

theorem visit_follow_of_last {k : κ} (last : c.keyAfter server g k = none) (allowance : Nat)
    (found : List γ) : ∃ result, visit server (c.follow g (allowance + 1) k found) =
      ⟨c.pageNotes server g k, some (result, [])⟩ := by
  rw [visit_follow_succ]
  unfold keyAfter at last
  generalize c.pageAt server g k = page at last ⊢
  rcases page with e | ⟨entries, _ | k'⟩
  · exact ⟨.error e, by simp [proceed, Dialogue.after]⟩
  · exact ⟨.ok (found ++ entries), by simp [proceed, Dialogue.after]⟩
  · cases last

theorem visit_follow_of_after {k k' : κ} (next : c.keyAfter server g k = some k') (allowance : Nat)
    (found : List γ) : ∃ entries, visit server (c.follow g (allowance + 1) k found) =
      (visit server (c.follow g allowance k' (found ++ entries))).after (c.pageNotes server g k) := by
  rw [visit_follow_succ]
  unfold keyAfter at next
  generalize c.pageAt server g k = page at next ⊢
  rcases page with e | ⟨entries, _ | k''⟩
  · cases next
  · cases next
  · cases next
    exact ⟨entries, rfl⟩

theorem visit_follow (allowance : Nat) (k : κ) (found : List γ) :
    (visit server (c.follow g allowance k found)).requests =
        (if isHeaderValue c.token then (c.keys server g k allowance).map (c.pageRequest g) else []) ∧
      ((visit server (c.follow g allowance k found)).result?.isSome ↔
        c.keyAt server g k allowance = none) := by
  rw [← c.requests_sent server]
  induction allowance generalizing k found with
  | zero => exact ⟨rfl, iff_of_false nofun nofun⟩
  | succ allowance ih =>
    cases next : c.keyAfter server g k with
    | none =>
      obtain ⟨result, visited⟩ := visit_follow_of_last next allowance found
      rw [visited, c.keys_succ_of_last server g next, c.keyAt_succ_of_last server g next]
      refine ⟨?_, iff_of_true rfl rfl⟩
      simp only [Dialogue.requests, List.map_cons, List.map_nil, List.flatMap_singleton]
      rfl
    | some k' =>
      obtain ⟨entries, visited⟩ := visit_follow_of_after next allowance found
      obtain ⟨asked, returns⟩ := ih k' (found ++ entries)
      rw [visited, c.keys_succ_of_after server g next, c.keyAt_succ_of_after server g next,
        Dialogue.requests_after, asked]
      refine ⟨?_, returns⟩
      rw [List.map_cons, List.flatMap_cons, List.filterMap_append]
      rfl

theorem visit_follow_of_le {allowance more : Nat} (le : allowance ≤ more) {k : κ}
    (returns : c.keyAt server g k allowance = none) (found : List γ) :
    visit server (c.follow g more k found) = visit server (c.follow g allowance k found) := by
  induction allowance generalizing more k found with
  | zero => cases returns
  | succ allowance ih =>
    obtain ⟨more, rfl⟩ : ∃ n, more = n + 1 := ⟨more - 1, by omega⟩
    rw [visit_follow_succ, visit_follow_succ]
    refine congrArg (Dialogue.after _) ?_
    rcases page : c.pageAt server g k with e | ⟨entries, _ | k'⟩
    · rfl
    · rfl
    · have next : c.keyAfter server g k = some k' := by rw [keyAfter, page]
      rw [c.keyAt_succ_of_after server g next] at returns
      exact ih (by omega) returns (found ++ entries)

theorem keyAt_add_congr {k : κ} {i j : Nat} (same : c.keyAt server g k i = c.keyAt server g k j)
    (n : Nat) : c.keyAt server g k (i + n) = c.keyAt server g k (j + n) := by
  induction n with
  | zero => exact same
  | succ n ih => rw [← Nat.add_assoc, ← Nat.add_assoc, keyAt_succ, keyAt_succ, ih]

theorem keyAt_of_le {k : κ} {n n' : Nat} (le : n ≤ n') (ends : c.keyAt server g k n = none) :
    c.keyAt server g k n' = none := by
  induction le with
  | refl => exact ends
  | step _ ih => rw [keyAt_succ, ih, Option.bind_none]

theorem keyAt_ne_none {start : κ} (goesOn : ∀ k, c.keyAfter server g k ≠ none) (n : Nat) :
    c.keyAt server g start n ≠ none := by
  induction n with
  | zero => exact nofun
  | succ n ih =>
    obtain ⟨k, here⟩ := Option.ne_none_iff_exists'.mp ih
    rw [keyAt_succ, here, Option.bind_some]
    exact goesOn k

/-- A listing that comes to its end gets to no page twice. -/
theorem keyAt_inj {k : κ} {n : Nat} (ends : c.keyAt server g k n = none) {i j : Nat}
    (same : c.keyAt server g k i = c.keyAt server g k j) (some : c.keyAt server g k i ≠ none) :
    i = j := by
  have ends : ∃ n, c.keyAt server g k n = none := ⟨n, ends⟩
  classical
  -- If it did, the number of pages to the end would be the same from both times on.
  have apart {i j : Nat} (lt : i < j) (same : c.keyAt server g k i = c.keyAt server g k j)
      (some : c.keyAt server g k j ≠ none) : False := by
    have before : j < Nat.find ends := by
      by_contra after
      exact some (keyAt_of_le (Nat.le_of_not_lt after) (Nat.find_spec ends))
    have sooner := keyAt_add_congr same (Nat.find ends - j)
    rw [Nat.add_sub_cancel' (Nat.le_of_lt before), Nat.find_spec ends] at sooner
    exact Nat.find_min ends (by omega) sooner
  rcases Nat.lt_trichotomy i j with lt | eq | gt
  · exact (apart lt same (same ▸ some)).elim
  · exact eq
  · exact (apart gt same.symm some).elim

theorem keys_nodup {k : κ} {n : Nat} (ends : c.keyAt server g k n = none) :
    (c.keys server g k n).Nodup := by
  refine List.Nodup.filterMap (fun i j key first second => ?_) List.nodup_range
  rw [Option.mem_def] at first second
  exact keyAt_inj ends (first.trans second.symm) (by rw [first]; exact nofun)

theorem length_keys {start : κ} {n : Nat} (goesOn : c.keyAt server g start n ≠ none) :
    (c.keys server g start n).length = n := by
  induction n with
  | zero => rfl
  | succ n ih =>
    obtain ⟨k, here⟩ : ∃ k, c.keyAt server g start n = some k :=
      Option.ne_none_iff_exists'.mp fun ends => goesOn (keyAt_of_le n.le_succ ends)
    rw [keys, List.range_succ, List.filterMap_append, List.length_append]
    have last : [n].filterMap (c.keyAt server g start) = [k] := List.filterMap_cons_some here
    rw [last]
    exact congrArg (· + 1) (ih (by rw [here]; exact nofun))

/-- A page leads on exactly if the answer for it is a success all of whose bodies fit, and what is told
beside them names a key. -/
theorem keyAt_succ_iff {k' start : κ} {n : Nat} : c.keyAt server g start (n + 1) = some k' ↔
    ∃ k envelope entries, c.keyAt server g start n = some k ∧
      g.open? (c.replyFrom server (c.pageRequest g k)) = .ok envelope ∧
        readBodies g.entry (envelope.result.getD []) = .ok entries ∧
          g.next k envelope.info = some k' := by
  rw [keyAt_succ, Option.bind_eq_some_iff]
  refine exists_congr fun k => ?_
  unfold keyAfter
  cases opens : g.open? (c.replyFrom server (c.pageRequest g k)) with
  | error defect => simp [pageAt_of_defect opens]
  | ok envelope =>
    cases read : readBodies g.entry (envelope.result.getD []) with
    | error e => simp [pageAt_of_opens opens, read, Except.map]
    | ok entries => simp [pageAt_of_opens opens, read, Except.map]

variable (c server g)

/-- How a listing comes along at a server, depending on how many requests it may send. It asks for the
pages to which the server leads, and returns if it got to the last of them, having asked for none
twice; more requests than it took then make no difference. If it does not return, it sent all that it
was allowed. -/
structure Courses {α : Type} (start : κ) (run : Nat → Dialogue α) : Prop where
  requests : ∀ n, (run n).requests =
    if isHeaderValue c.token then (c.keys server g start n).map (c.pageRequest g) else []
  leads : ∀ n k', c.keyAt server g start (n + 1) = some k' ↔
    ∃ k envelope entries, c.keyAt server g start n = some k ∧
      g.open? (c.replyFrom server (c.pageRequest g k)) = .ok envelope ∧
        readBodies g.entry (envelope.result.getD []) = .ok entries ∧
          g.next k envelope.info = some k'
  returns : ∀ n, (run n).result?.isSome ↔ c.keyAt server g start n = none
  once : ∀ n, (run n).result?.isSome → (c.keys server g start n).Nodup
  settled : ∀ n m, n ≤ m → (run n).result?.isSome → run m = run n
  unended : ∀ n, (run n).result? = none → (c.keys server g start n).length = n

theorem courses_follow (start : κ) : c.Courses server g start fun n =>
    visit server (c.follow g n start [] >>= fun result => pure (result, c)) := by
  have returns (n : Nat) :
      (visit server (c.follow g n start [] >>= fun result => pure (result, c))).result?.isSome ↔
        c.keyAt server g start n = none := by
    rw [visit_bind_pure, Dialogue.result?, Option.map_map, Option.isSome_map]
    exact (Option.isSome_map ▸ (visit_follow n start []).2)
  exact {
    requests n := by
      rw [visit_bind_pure]
      exact (visit_follow n start []).1
    leads _ _ := keyAt_succ_iff
    returns := returns
    once n returned := keys_nodup ((returns n).mp returned)
    settled n m le returned := by
      rw [visit_bind_pure, visit_bind_pure,
        visit_follow_of_le le ((returns n).mp returned)]
    unended n unended := by
      refine length_keys fun ends => ?_
      have returned := (returns n).mpr ends
      rw [unended] at returned
      cases returned }

end Client

/-- How far a listing goes is up to the server: it asks on as long as each answer is a success whose
bodies fit and which names another page, and returns exactly if one does not. Records are asked for
page by page, whichever page the server says it was. -/
theorem listings_follow_server (c : Client) (server : Request → Reply) :
    (∀ zone domain family,
      c.Courses server (recordPaging zone domain.print family) 1
          (fun n => visit server (c.perform n (.listRecords zone domain family))) ∧
        ∀ n page, c.keyAt server (recordPaging zone domain.print family) 1 n = some page →
          page = .ofNat (n + 1)) ∧
      ∀ account id, c.Courses server (itemPaging account id) none
        fun n => visit server (c.perform n (.listItems account id)) := by
  refine ⟨fun zone domain family => ⟨?_, fun n page at_n => ?_⟩, fun account id => ?_⟩
  · simp only [Client.perform_listRecords]
    exact c.courses_follow server (recordPaging zone domain.print family) 1
  · induction n generalizing page with
    | zero => exact (Option.some.inj at_n).symm
    | succ n ih =>
      obtain ⟨k, envelope, _, at_k, _, _, next⟩ := Client.keyAt_succ_iff.mp at_n
      rw [ih k at_k] at next
      change (if _ then some (UInt32.ofNat (n + 1) + 1) else none) = some page at next
      split at next
      · rw [← Option.some.inj next, UInt32.ofNat_add (n + 1) 1]
        rfl
      · cases next
  · simp only [Client.perform_listItems]
    exact c.courses_follow server (itemPaging account id) none

def unending : Reply :=
  .response 200 (Json.Value.record [("success", .bool true), ("result", .array []),
    ("result_info", .record [("page", .nat 1), ("total_pages", .nat 2),
      ("cursors", .record [("after", .text "c")])])]).print

theorem open?_unending_records (zone name : String) (family : Family) :
    (recordPaging zone name family).open? unending =
      .ok ⟨true, [], some [], some ⟨some 1, some 2, some "c"⟩⟩ :=
  readReply_print rfl rfl rfl

theorem open?_unending_items (account id : String) : (itemPaging account id).open? unending =
    .ok ⟨true, [], some [], some ⟨some 1, some 2, some "c"⟩⟩ :=
  readReply_print rfl rfl rfl

theorem listings_unended :
    (∀ allowance, (visit (fun _ => unending)
      (visitor.perform allowance (.listRecords "z" (.plain "www.example.com") .v4))).result? = none) ∧
    (∀ allowance, (visit (fun _ => unending)
      (visitor.perform allowance (.listItems "a" "l"))).result? = none) ∧
    (visit (fun _ => unending) (visitor.perform 3 (.listItems "a" "l"))).requests.map Request.query =
      [[("per_page", "500")], [("per_page", "500"), ("cursor", "c")],
        [("per_page", "500"), ("cursor", "c")]] := by
  have sendable : isHeaderValue visitor.token = true := by decide
  have came (r : Request) : visitor.replyFrom (fun _ => unending) r = unending := if_pos sendable
  have nextPage (zone name : String) (family : Family) (page : UInt32) :
      visitor.keyAfter (fun _ => unending) (recordPaging zone name family) page =
        some (page + 1) := by
    have opens := open?_unending_records zone name family
    rw [← came] at opens
    rw [Client.keyAfter, Client.pageAt_of_opens opens]
    rfl
  have nextItems (cursor : Option String) :
      visitor.keyAfter (fun _ => unending) (itemPaging "a" "l") cursor = some (some "c") := by
    have opens := open?_unending_items "a" "l"
    rw [← came] at opens
    rw [Client.keyAfter, Client.pageAt_of_opens opens]
    rfl
  have unended {κ β γ α : Type} {g : Paging κ β γ} {start : κ} {run : Nat → Dialogue α}
      (courses : visitor.Courses (fun _ => unending) g start run)
      (goesOn : ∀ k, visitor.keyAfter (fun _ => unending) g k ≠ none) (allowance : Nat) :
      (run allowance).result? = none :=
    Option.not_isSome_iff_eq_none.mp fun returned =>
      Client.keyAt_ne_none goesOn allowance ((courses.returns allowance).mp returned)
  obtain ⟨records, items⟩ := listings_follow_server visitor fun _ => unending
  refine ⟨unended (records "z" (.plain "www.example.com") .v4).1 fun page => ?_,
    unended (items "a" "l") fun cursor => ?_, ?_⟩
  · rw [nextPage]
    exact nofun
  · rw [nextItems]
    exact nofun
  · rw [(items "a" "l").requests, if_pos sendable, Client.keys_succ_of_after _ _ _ (nextItems _),
      Client.keys_succ_of_after _ _ _ (nextItems _), Client.keys_succ_of_after _ _ _ (nextItems _)]
    rfl

end AddressSync.Cloudflare
