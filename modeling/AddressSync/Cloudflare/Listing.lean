import AddressSync.Cloudflare.Client
import AddressSync.Provider.Call

/-! What the Cloudflare interface lists, page by page, as the program's own data. A body that does
not fit makes the whole listing a failure. How many pages there are is up to the server, so each
listing is given the number of requests that it may send; with none left it has no end. -/

namespace AddressSync.Cloudflare

open Http

def ZoneBody.zone (b : ZoneBody) : Zone := ⟨b.id, b.name, .ofWord b.status⟩

def ListBody.list (b : ListBody) : NamedList := ⟨b.id, b.name, b.description.getD "", b.kind⟩

def RecordBody.record (family : Family) (b : RecordBody) : Except Failure Record :=
  if b.type ≠ family.recordType then
    .error (.invalidRecord s!"record {b.id} has type {b.type}, expected {family.recordType}")
  else match Address.parse? b.content with
    | none => .error (.invalidRecord
        s!"record {b.id} has content {Text.quote b.content}, which is not an IP address")
    | some address =>
      if address.family ≠ family then .error (.invalidRecord
        s!"record {b.id} holds {address} in a {family.recordType} record")
      else .ok ⟨b.id, address, ⟨b.ttl, b.proxied, b.comment.getD ""⟩⟩

def ItemBody.item (b : ItemBody) : Except Failure ListItem :=
  match b.ip with
  | none => .error (.invalidRecord s!"list item {b.id} carries no IP prefix")
  | some text =>
    match Block.parse text with
    | .ok block => .ok ⟨b.id, block⟩
    | .error _ =>
      .error (.invalidRecord s!"list item {b.id} has invalid prefix {Text.quote text}")

def readBodies {β γ : Type} (read : β → Except Failure γ) : List β → Except Failure (List γ)
  | [] => .ok []
  | body :: rest =>
    match read body with
    | .error e => .error e
    | .ok x => (readBodies read rest).map (x :: ·)

def recordsPath (zone : String) : String := s!"/zones/{zone}/dns_records"

def recordPath (zone id : String) : String := s!"/zones/{zone}/dns_records/{id}"

def listsPath (account : String) : String := s!"/accounts/{account}/rules/lists"

def listPath (account id : String) : String := s!"/accounts/{account}/rules/lists/{id}"

def itemsPath (account id : String) : String := s!"/accounts/{account}/rules/lists/{id}/items"

def operationPath (account operation : String) : String :=
  s!"/accounts/{account}/rules/lists/bulk_operations/{operation}"

namespace Client

def zones (c : Client) (name : String) : Http (Except Failure (List Zone)) := do
  let bodies ← c.fetch "list zones" (Json.Value.list? ZoneBody.ofJson?) .get "/zones"
    [("name", name), ("per_page", "50")]
  return bodies.map fun bodies => bodies.map ZoneBody.zone

def lists (c : Client) (account : String) : Http (Except Failure (List NamedList)) := do
  let bodies ← c.fetch "list IP lists" (Json.Value.list? ListBody.ofJson?) .get
    (listsPath account)
  return bodies.map fun bodies => bodies.map ListBody.list

def recordsQuery (name : String) (family : Family) (page : UInt32) : List (String × String) :=
  [("name", name), ("type", family.recordType), ("per_page", "100"), ("page", toString page)]

/-- The records of a page and of the pages behind it. Behind the last number that a page can have
comes zero, as in a build without checks for overflow. -/
def recordsFrom (c : Client) (zone name : String) (family : Family) :
    (allowance : Nat) → (page : UInt32) → (found : List Record) →
      Http (Except Failure (List Record))
  | 0, _, _ => endless
  | allowance + 1, page, found => do
    match ← c.send "list records" (Json.Value.list? RecordBody.ofJson?) .get (recordsPath zone)
        (recordsQuery name family page) with
    | .error e => return .error e
    | .ok envelope =>
      match readBodies (RecordBody.record family) (envelope.result.getD []) with
      | .error e => return .error e
      | .ok records =>
        if envelope.info.any PageInfo.hasNext then
          recordsFrom c zone name family allowance (page + 1) (found ++ records)
        else return .ok (found ++ records)

def itemsQuery (cursor : Option String) : List (String × String) :=
  ("per_page", "500") :: (cursor.map fun after => ("cursor", after)).toList

def itemsFrom (c : Client) (account id : String) :
    (allowance : Nat) → (cursor : Option String) → (found : List ListItem) →
      Http (Except Failure (List ListItem))
  | 0, _, _ => endless
  | allowance + 1, cursor, found => do
    match ← c.send "list IP list items" (Json.Value.list? ItemBody.ofJson?) .get
        (itemsPath account id) (itemsQuery cursor) with
    | .error e => return .error e
    | .ok envelope =>
      match readBodies ItemBody.item (envelope.result.getD []) with
      | .error e => return .error e
      | .ok items =>
        match envelope.info.bind PageInfo.next? with
        | some after => itemsFrom c account id allowance (some after) (found ++ items)
        | none => return .ok (found ++ items)

end Client

end AddressSync.Cloudflare
