import AddressSync.Cloudflare.Listing

/-! Listings that come page by page, records by numbered pages and items by cursors, as one program. -/

namespace AddressSync.Cloudflare

open Http

variable {κ β γ : Type}

/-- A listing whose pages are asked for by keys: the entries of a page are read from bodies, and what
is told beside them may lead to the key of the next page. -/
structure Paging (κ β γ : Type) where
  context : String
  path : String
  query : κ → List (String × String)
  body : Json.Value → Option β
  entry : β → Except Failure γ
  next : κ → Option PageInfo → Option κ

def recordPaging (zone name : String) (family : Family) : Paging UInt32 RecordBody Record where
  context := "list records"
  path := recordsPath zone
  query := Client.recordsQuery name family
  body := RecordBody.ofJson?
  entry := RecordBody.record family
  next page info := if info.any PageInfo.hasNext then some (page + 1) else none

def itemPaging (account id : String) : Paging (Option String) ItemBody ListItem where
  context := "list IP list items"
  path := itemsPath account id
  query := Client.itemsQuery
  body := ItemBody.ofJson?
  entry := ItemBody.item
  next _ info := (info.bind PageInfo.next?).map some

namespace Paging

variable (g : Paging κ β γ)

def open? (reply : Reply) : Except Defect (Envelope (List β)) :=
  readReply (Json.Value.list? g.body) reply

def page (k : κ) (envelope : Envelope (List β)) : Except Failure (List γ × Option κ) :=
  (readBodies g.entry (envelope.result.getD [])).map (·, g.next k envelope.info)

end Paging

namespace Client

variable (c : Client) (g : Paging κ β γ)

def pageRequest (k : κ) : Request := c.request .get g.path (g.query k) none

def follow : (allowance : Nat) → κ → (found : List γ) → Http (Except Failure (List γ))
  | 0, _, _ => endless
  | allowance + 1, k, found => do
    let opened ← c.send g.context (Json.Value.list? g.body) .get g.path (g.query k)
    match opened.bind (g.page k) with
    | .error e => return .error e
    | .ok (entries, none) => return .ok (found ++ entries)
    | .ok (entries, some k) => follow allowance k (found ++ entries)

def proceed (allowance : Nat) (found : List γ) :
    Except Failure (List γ × Option κ) → Http (Except Failure (List γ))
  | .error e => return .error e
  | .ok (entries, none) => return .ok (found ++ entries)
  | .ok (entries, some k) => c.follow g allowance k (found ++ entries)

theorem follow_succ (allowance : Nat) (k : κ) (found : List γ) :
    c.follow g (allowance + 1) k found =
      c.send g.context (Json.Value.list? g.body) .get g.path (g.query k) >>= fun opened =>
        c.proceed g allowance found (opened.bind (g.page k)) := by
  refine congrArg (_ >>= ·) (funext fun opened => ?_)
  rcases opened.bind (g.page k) with e | ⟨entries, _ | k⟩ <;> rfl

theorem recordsFrom_eq (zone name : String) (family : Family) (allowance : Nat) (page : UInt32)
    (found : List Record) : c.recordsFrom zone name family allowance page found =
      c.follow (recordPaging zone name family) allowance page found := by
  induction allowance generalizing page found with
  | zero => rfl
  | succ allowance ih =>
    refine congrArg (_ >>= ·) (funext fun opened => ?_)
    cases opened with
    | error e => rfl
    | ok envelope =>
      have read : (Except.ok envelope).bind ((recordPaging zone name family).page page) =
        (readBodies (RecordBody.record family) (envelope.result.getD [])).map
          (·, if envelope.info.any PageInfo.hasNext then some (page + 1) else none) := rfl
      rw [read]
      dsimp only
      cases readBodies (RecordBody.record family) (envelope.result.getD []) with
      | error e => rfl
      | ok records =>
        by_cases more : envelope.info.any PageInfo.hasNext = true
        · simp only [more, if_true, Except.map]
          exact ih (page + 1) (found ++ records)
        · simp only [more, Except.map]
          rfl

theorem itemsFrom_eq (account id : String) (allowance : Nat) (cursor : Option String)
    (found : List ListItem) : c.itemsFrom account id allowance cursor found =
      c.follow (itemPaging account id) allowance cursor found := by
  induction allowance generalizing cursor found with
  | zero => rfl
  | succ allowance ih =>
    refine congrArg (_ >>= ·) (funext fun opened => ?_)
    cases opened with
    | error e => rfl
    | ok envelope =>
      have read : (Except.ok envelope).bind ((itemPaging account id).page cursor) =
        (readBodies ItemBody.item (envelope.result.getD [])).map
          (·, (envelope.info.bind PageInfo.next?).map some) := rfl
      rw [read]
      dsimp only
      cases readBodies ItemBody.item (envelope.result.getD []) with
      | error e => rfl
      | ok items =>
        cases envelope.info.bind PageInfo.next? with
        | none => rfl
        | some after => exact ih (some after) (found ++ items)

end Client

end AddressSync.Cloudflare
