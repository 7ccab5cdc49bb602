import AddressSync.Proofs.Cloudflare.Paging
import AddressSync.Proofs.Cloudflare.Session

/-! Which requests a client may come to send, whatever it is answered: all of them are its own, those
of the calls that read only get, and a change begins with the request that stands for it. -/

namespace AddressSync.Cloudflare

open Http Json

variable {α β : Type} {c : Client} {Q : Http.Request → Prop}

namespace Client

theorem sendsOnly_send {read : Value → Option α} {method : Method} {path : String}
    {query : List (String × String)} {body : Option Value} (context : String)
    (allowed : Q (c.request method path query body)) :
    SendsOnly Q (c.send context read method path query body) := by
  rw [send]
  refine SendsOnly.log ?_ _ _ _
  split
  · exact sendsOnly_pure _
  · exact SendsOnly.exchange allowed fun _ => sendsOnly_pure _

theorem sendsOnly_fetch {read : Value → Option α} {method : Method} {path : String}
    {query : List (String × String)} {body : Option Value} (context : String)
    (allowed : Q (c.request method path query body)) :
    SendsOnly Q (c.fetch context read method path query body) := by
  refine (sendsOnly_send context allowed).bind fun
    | .error e => sendsOnly_pure _
    | .ok envelope => ?_
  dsimp only
  split <;> exact sendsOnly_pure _

theorem sendsOnly_execute {method : Method} {path : String} {body : Option Value} (context : String)
    (allowed : Q (c.request method path [] body)) :
    SendsOnly Q (c.execute context method path body) :=
  (sendsOnly_send context allowed).bind fun
    | .error _ => sendsOnly_pure _
    | .ok _ => sendsOnly_pure _

section

variable (gets : ∀ path query, Q (c.request .get path query none))

include gets

theorem sendsOnly_follow {κ γ : Type} (g : Paging κ β γ) (allowance : Nat) (k : κ)
    (found : List γ) : SendsOnly Q (c.follow g allowance k found) := by
  induction allowance generalizing k found with
  | zero => exact sendsOnly_endless
  | succ allowance ih =>
    rw [follow_succ]
    refine (sendsOnly_send _ (gets _ _)).bind fun opened => ?_
    rcases opened.bind (g.page k) with e | ⟨entries, _ | k'⟩
    · exact sendsOnly_pure _
    · exact sendsOnly_pure _
    · exact ih k' (found ++ entries)

theorem sendsOnly_recordsFrom (zone name : String) (family : Family) (allowance : Nat)
    (page : UInt32) (found : List Record) : SendsOnly Q (c.recordsFrom zone name family allowance page found) := by
  rw [recordsFrom_eq]
  exact sendsOnly_follow gets _ _ _ _

theorem sendsOnly_itemsFrom (account id : String) (allowance : Nat) (cursor : Option String)
    (found : List ListItem) : SendsOnly Q (c.itemsFrom account id allowance cursor found) := by
  rw [itemsFrom_eq]
  exact sendsOnly_follow gets _ _ _ _

theorem sendsOnly_awaitOperation (account operation : String) (left : Nat) :
    SendsOnly Q (c.awaitOperation account operation left) := by
  induction left with
  | zero => exact sendsOnly_pure _
  | succ left ih =>
    refine (sendsOnly_fetch _ (gets _ _)).bind fun
      | .error e => sendsOnly_pure _
      | .ok answer => ?_
    dsimp only
    split
    · exact sendsOnly_pure _
    split
    · exact sendsOnly_pure _
    refine SendsOnly.log ?_ _ _ _
    split
    · exact ih.pause _
    · exact ih

theorem sendsOnly_operate {method : Method} {account id : String} {body : Value} (context : String)
    (allowed : Q (c.request method (itemsPath account id) [] (some body))) :
    SendsOnly Q (c.operate context method account id body) :=
  (sendsOnly_fetch context allowed).bind fun
    | .error _ => sendsOnly_pure _
    | .ok _ => sendsOnly_awaitOperation gets _ _ _

theorem sendsOnly_verifyToken : SendsOnly Q c.verifyToken := by
  refine (sendsOnly_fetch _ (gets _ _)).bind fun
    | .error e => sendsOnly_pure _
    | .ok status => ?_
  dsimp only
  split
  · exact sendsOnly_pure _
  · exact (sendsOnly_pure _).log _ _ _

theorem sendsOnly_transact (call : Call) (allowance : Nat)
    (change : ∀ r ∈ changeRequest? call, Q (c.request r.1 r.2.1 [] r.2.2)) :
    SendsOnly Q (c.transact allowance call) := by
  cases call with
  | listZones name => exact (sendsOnly_fetch _ (gets _ _)).bind fun _ => sendsOnly_pure _
  | listRecords zone domain family => exact sendsOnly_recordsFrom gets _ _ _ _ _ _
  | createRecord zone domain family address attributes =>
    exact (sendsOnly_fetch _ (change _ rfl)).bind fun
      | .error _ => sendsOnly_pure _
      | .ok _ => sendsOnly_pure _
  | updateRecord zone domain family id address => exact sendsOnly_execute _ (change _ rfl)
  | deleteRecord zone id => exact sendsOnly_execute _ (change _ rfl)
  | listLists account => exact (sendsOnly_fetch _ (gets _ _)).bind fun _ => sendsOnly_pure _
  | createList account name description =>
    exact (sendsOnly_fetch _ (change _ rfl)).bind fun
      | .error _ => sendsOnly_pure _
      | .ok _ => sendsOnly_pure _
  | deleteList account id => exact sendsOnly_execute _ (change _ rfl)
  | listItems account id => exact sendsOnly_itemsFrom gets _ _ _ _ _
  | createItems account id blocks comment =>
    refine (sendsOnly_operate gets _ (change _ rfl)).bind fun
      | .error _ => sendsOnly_pure _
      | .ok () => ?_
    exact (sendsOnly_itemsFrom gets _ _ _ _ _).bind fun
      | .error _ => sendsOnly_pure _
      | .ok _ => sendsOnly_pure _
  | deleteItems account id items => exact sendsOnly_operate gets _ (change _ rfl)
  | replaceItems account id blocks =>
    exact (sendsOnly_fetch _ (change _ rfl)).bind fun
      | .error _ => sendsOnly_pure _
      | .ok _ => (sendsOnly_pure _).log _ _ _

omit gets in
theorem changeRequest?_of_reads {call : Call} (reads : call.isMutation = false) :
    changeRequest? call = none := by
  cases call with
  | listZones | listRecords | listLists | listItems => rfl
  | _ => cases reads

theorem sendsOnly_carryOut (job : Job) (allowance : Nat)
    (change : c.trial = false → ∀ call, job = .call call →
      ∀ r ∈ changeRequest? call, Q (c.request r.1 r.2.1 [] r.2.2)) :
    SendsOnly Q (c.carryOut allowance job) := by
  have does := c.carryOut_does allowance job
  generalize c.carryOut allowance job = p at does ⊢
  cases does with
  | verified => exact (sendsOnly_verifyToken gets).bind fun _ => sendsOnly_pure _
  | refused objects => exact sendsOnly_pure _
  | @transacted call fits direct =>
    refine (sendsOnly_transact gets call allowance ?_).bind fun _ => sendsOnly_pure _
    rcases direct with live | reads
    · exact change live call rfl
    · simp [changeRequest?_of_reads reads]
  | pretended fits trial mutates request granted => exact (sendsOnly_pure _).log _ _ _

end

def OpensWith (r : Http.Request) (p : Http α) : Prop :=
  ∀ replies, (dialogue p replies).requests.head? = some r

variable {r : Http.Request} {p : Http α}

theorem OpensWith.bind (opens : OpensWith r p) (f : α → Http β) : OpensWith r (p >>= f) := by
  intro replies
  have head := opens replies
  rw [dialogue_bind]
  generalize dialogue p replies = d at head
  obtain ⟨notes, _ | ⟨a, left⟩⟩ := d
  · exact head
  · rw [Dialogue.goOn, Dialogue.requests_after, List.head?_append]
    exact congrArg (Option.or · _) head

theorem opensWith_send (sendable : isHeaderValue c.token = true) (context : String)
    (read : Value → Option α) (method : Method) (path : String) (query : List (String × String))
    (body : Option Value) :
    OpensWith (c.request method path query body) (c.send context read method path query body) := by
  intro replies
  rw [send, sendable]
  cases replies <;> rfl

theorem opensWith_transact (sendable : isHeaderValue c.token = true) {call : Call} {method : Method}
    {path : String} {body : Option Value} (request : changeRequest? call = some (method, path, body))
    (allowance : Nat) : OpensWith (c.request method path [] body) (c.transact allowance call) := by
  cases call with
  | listZones | listRecords | listLists | listItems => cases request
  | createRecord | createList | replaceItems =>
    cases request
    exact ((opensWith_send sendable _ _ _ _ _ _).bind _).bind _
  | updateRecord | deleteRecord | deleteList =>
    cases request
    exact (opensWith_send sendable _ _ _ _ _ _).bind _
  | createItems =>
    cases request
    exact (((opensWith_send sendable _ _ _ _ _ _).bind _).bind _).bind _
  | deleteItems =>
    cases request
    exact ((opensWith_send sendable _ _ _ _ _ _).bind _).bind _

end Client

end AddressSync.Cloudflare
