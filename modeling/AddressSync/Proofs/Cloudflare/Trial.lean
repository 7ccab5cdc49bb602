import AddressSync.Proofs.Cloudflare.Requests
import AddressSync.Proofs.Provider.Sound

/-! A client on trial: nothing that it sends changes anything, what it would change is granted and
told of as it would be sent, and it makes up no identifier twice. -/

namespace AddressSync

def Call.IsFitting : Call → Prop
  | .createRecord _ _ family address _ | .updateRecord _ _ family _ address => address.family = family
  | _ => True

/-- Where items are to be added, these are the ones that were asked for, in their order. -/
def Call.AddsAll : (call : Call) → call.Reply → Prop
  | .createItems _ _ blocks _, items => items.map ListItem.block = blocks
  | _, _ => True

def Http.Request.announcement (r : Request) : Log.Line :=
  let payload := (r.body.getD .null).print
  ⟨.info, s!"[DRY-RUN] Would send {r.method.word} request to {r.url} with payload: {payload}", []⟩

namespace Cloudflare

open Http Json

variable {c : Client} {call : Call} {e : Failure}

theorem unfit_of_objection (refused : objection? call = some e) :
    ¬call.IsFitting ∧ ∃ detail, e = .invalidInput detail := by
  cases call with
  | createRecord | updateRecord =>
    rw [objection?] at refused
    split at refused
    · next other =>
      cases refused
      exact ⟨other, _, rfl⟩
    · cases refused
  | _ => cases refused

theorem fits_of_no_objection (fits : objection? call = none) : call.IsFitting := by
  cases call with
  | createRecord | updateRecord =>
    rw [objection?] at fits
    split at fits
    · cases fits
    · next same => exact Classical.not_not.mp same
  | _ => trivial

/-- What becomes of a change that is tried at the given address: it is refused, and so it would be by
any client; or nothing is sent and it is granted, and the one line in the log tells of the request by
which any client at that address that is not on trial begins the change. -/
inductive Tried (base : String) (call : Call) :
    List Note → Option (Except Failure call.Reply) → Prop
  | refused {detail : String} (unfit : ¬call.IsFitting)
    (always : ∀ (c : Client) (allowance : Nat),
      c.perform allowance call = pure (.error (.invalidInput detail), c)) :
    Tried base call [] (some (.error (.invalidInput detail)))
  | granted {line : Log.Line} {reply : call.Reply} (fits : call.IsFitting) (adds : call.AddsAll reply)
    (announced : ∀ live : Client, live.trial = false → live.base = base →
      isHeaderValue live.token = true → ∀ allowance replies,
        ∃ r, (dialogue (live.perform allowance call) replies).requests.head? = some r ∧
          r.query = [] ∧ line = r.announcement) :
    Tried base call [.log line] (some (.ok reply))

def Job.newIds : (job : Job) → job.Reply → List String
  | .call (.createRecord ..), r => [r.id]
  | .call (.createList ..), l => [l.id]
  | .call (.createItems ..), items => items.map ListItem.id
  | _, _ => []

namespace Turn

def Tried (base : String) : Turn → Prop
  | ⟨.call call, notes, answer?⟩ => call.isMutation = true → Cloudflare.Tried base call notes answer?
  | ⟨.verifyToken, _, _⟩ => True

def newIds (t : Turn) : List String :=
  match t.answer? with
  | some (.ok reply) => t.job.newIds reply
  | _ => []

end Turn

theorem madeUpItems_blocks (made : Nat) (blocks : List Block) :
    (madeUpItems made blocks).map ListItem.block = blocks := by
  induction blocks generalizing made with
  | nil => rfl
  | cons block rest ih => exact congrArg (block :: ·) (ih (made + 1))

theorem madeUpItems_ids (made : Nat) (blocks : List Block) :
    (madeUpItems made blocks).map ListItem.id =
      (List.range' (made + 1) blocks.length).map madeUpId := by
  induction blocks generalizing made with
  | nil => rfl
  | cons block rest ih =>
    rw [List.length_cons, List.range'_succ]
    exact congrArg (madeUpId (made + 1) :: ·) (ih (made + 1))

theorem madeUpId_injective : Function.Injective madeUpId :=
  fun _ _ same => Simulation.Provider.number_inj same

namespace Client

def counting (c : Client) (n : Nat) : Client := { c with made := c.made + n }

theorem pretend_ids {reply : call.Reply} {next : Client} (granted : c.pretend call = some (reply, next)) :
    call.AddsAll reply ∧ ∃ n, next = c.counting n ∧
      (Job.call call).newIds reply = (List.range' (c.made + 1) n).map madeUpId := by
  cases call with
  | listZones | listRecords | listLists | listItems => cases granted
  | createRecord | createList =>
    cases granted
    exact ⟨trivial, 1, rfl, rfl⟩
  | createItems account id blocks comment =>
    cases granted
    exact ⟨madeUpItems_blocks _ _, blocks.length, rfl, madeUpItems_ids _ _⟩
  | updateRecord | deleteRecord | deleteList | deleteItems | replaceItems =>
    cases granted
    exact ⟨trivial, 0, rfl, rfl⟩

theorem dialogue_announce_bind {α : Type} (c : Client) (method : Method) (path : String)
    (body : Option Value) (f : Unit → Http α) (replies : List Http.Reply) :
    dialogue (c.announce method path body >>= f) replies =
      (dialogue (f ()) replies).after [.log (c.request method path [] body).announcement] := by
  rw [announce, dialogue_log_bind, Request.announcement]
  simp only [request, toString, String.append_assoc]

theorem tried_of_trial (trial : c.trial = true) (mutates : call.isMutation = true) (allowance : Nat)
    (replies : List Http.Reply) :
    let d := dialogue (c.carryOut allowance (.call call)) replies
    Tried c.base call d.notes (d.result?.map Prod.fst) := by
  have does := c.carryOut_does allowance (.call call)
  generalize c.carryOut allowance (.call call) = p at does ⊢
  cases does with
  | refused objects =>
    obtain ⟨unfit, detail, rfl⟩ := unfit_of_objection objects
    exact .refused unfit (perform_refused objects)
  | transacted fits direct =>
    rw [trial, mutates] at direct
    rcases direct with live | reads
    · cases live
    · cases reads
  | @pretended _ method path body reply next fits _ _ request granted =>
    rw [dialogue_announce_bind]
    refine .granted (fits_of_no_objection fits) (pretend_ids granted).1 ?_
    intro live untried same sendable allowance' replies'
    refine ⟨live.request method path [] body, ?_, rfl, ?_⟩
    · rw [perform_transacted fits (.inl untried)]
      exact (opensWith_transact sendable request allowance').bind _ replies'
    · rw [Request.announcement, Request.announcement, Client.request, Client.request, same]

theorem carryOut_ids (trial : c.trial = true) (allowance : Nat) (job : Job)
    (replies : List Http.Reply) {answer : Except Failure job.Reply} {next : Client}
    (done : (dialogue (c.carryOut allowance job) replies).result? = some (answer, next)) :
    ∃ n, next = c.counting n ∧ ∀ notes,
      Turn.newIds ⟨job, notes, some answer⟩ = (List.range' (c.made + 1) n).map madeUpId := by
  have does := c.carryOut_does allowance job
  generalize c.carryOut allowance job = p at does done
  cases does with
  | verified =>
    refine ⟨0, next_of_done done, fun notes => ?_⟩
    cases answer <;> rfl
  | refused objects =>
    cases done
    exact ⟨0, rfl, fun _ => rfl⟩
  | @transacted call fits direct =>
    have reads := direct.resolve_left (by simp [trial])
    refine ⟨0, next_of_done done, fun notes => ?_⟩
    cases call with
    | listZones | listRecords | listLists | listItems => cases answer <;> rfl
    | _ => cases reads
  | pretended fits _ mutates request granted =>
    cases done
    obtain ⟨-, n, counted, ids⟩ := pretend_ids granted
    exact ⟨n, counted, fun _ => ids⟩

end Client

theorem session_ids (trial : c.trial = true) (allowance : Nat) (jobs : List Job)
    (replies : List Http.Reply) :
    ∃ n, (c.session allowance jobs replies).flatMap Turn.newIds =
      (List.range' (c.made + 1) n).map madeUpId := by
  induction jobs generalizing c replies with
  | nil => exact ⟨0, rfl⟩
  | cons job jobs ih =>
    rw [Client.session]
    have ids := @Client.carryOut_ids c trial allowance job replies
    generalize dialogue (c.carryOut allowance job) replies = d at ids
    obtain ⟨notes, _ | ⟨⟨answer, next⟩, left⟩⟩ := d
    · exact ⟨0, rfl⟩
    · obtain ⟨n, rfl, first⟩ := ids rfl
      obtain ⟨m, rest⟩ := ih (c := c.counting n) trial left
      refine ⟨n + m, ?_⟩
      rw [← List.range'_append_1, List.map_append, ← first notes, List.flatMap_cons]
      refine congrArg (_ ++ ·) (rest.trans ?_)
      rw [Client.counting, Nat.add_right_comm]

/-- A client on trial, whatever is asked of it and whatever replies it gets: it sends requests that
only get; each change is refused for its address or else granted, with nothing sent and told of as it
would be sent; and the identifiers that it makes up are numbered in a row, so that none comes twice. -/
theorem session_on_trial (trial : c.trial = true) (allowance : Nat) (jobs : List Job)
    (replies : List Http.Reply) :
    let turns := c.session allowance jobs replies
    (∀ t ∈ turns, (∀ r ∈ t.requests, r.method = .get) ∧ t.Tried c.base) ∧
    (∃ n, turns.flatMap Turn.newIds = (List.range' (c.made + 1) n).map madeUpId) ∧
    (turns.flatMap Turn.newIds).Nodup := by
  have ids := session_ids trial allowance jobs replies
  refine ⟨?_, ids, ?_⟩
  · refine Client.forall_mem_session (I := fun c' => c'.trial = true ∧ c'.base = c.base) ?_
      ⟨trial, rfl⟩ jobs replies
    rintro c' job replies ⟨trial, same⟩
    refine ⟨⟨?_, ?_⟩, ?_⟩
    · refine SendsOnly.requests (Client.sendsOnly_carryOut (fun _ _ => rfl) job allowance ?_) replies
      intro live
      rw [trial] at live
      cases live
    · cases job with
      | verifyToken => trivial
      | call call =>
        intro mutates
        rw [← same]
        exact Client.tried_of_trial trial mutates allowance replies
    · rintro ⟨answer, next⟩ done
      obtain ⟨n, rfl, -⟩ := Client.carryOut_ids trial allowance job replies done
      exact ⟨trial, same⟩
  · obtain ⟨n, numbered⟩ := ids
    rw [numbered]
    exact .map madeUpId_injective List.nodup_range'

def errands : List Job :=
  [.call (.createRecord "z" (.plain "www.example.com") .v4 (.v4 0xCB007107) {}),
    .call (.createRecord "z" (.plain "www.example.com") .v6 (.v4 0xCB007107) {}),
    .call (.listZones "example.com"),
    .call (.createItems "a" "l" [(Address.v4 0xCB007107).listedBlock, (Address.v4 0).listedBlock] "")]

def trialist : Client where
  token := "t"
  base := "http://localhost"
  trial := true
  words := plainWords

theorem session_on_trial_errands : trialist.trial = true ∧
    let turns := trialist.session 9 errands [granted (.array [])]
    turns.map (·.requests.length) = [0, 0, 1, 0] ∧
      turns.flatMap Turn.newIds = ["dry-run-1", "dry-run-2", "dry-run-3"] ∧
        (turns.flatMap Turn.newIds).Nodup ∧
          ∀ t ∈ turns, (∀ r ∈ t.requests, r.method = .get) ∧ t.Tried "http://localhost" := by
  obtain ⟨each, -, distinct⟩ := session_on_trial (c := trialist) rfl 9 errands
    [granted (.array [])]
  exact ⟨rfl, by rfl, by rfl, distinct, each⟩

end Cloudflare

end AddressSync
