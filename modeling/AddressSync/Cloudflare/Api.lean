import AddressSync.Cloudflare.Operation

/-! Cloudflare as a provider: every call as the requests that it takes. A trial client sends those
of the calls that only read; of the others it tells the first request, and answers as if it had
been granted. -/

namespace AddressSync.Cloudflare

open Http Json

def textField (name text : String) : List (String × Value) :=
  if text = "" then [] else [(name, .text text)]

def newRecordBody (domain : Domain) (family : Family) (address : Address)
    (attributes : Attributes) : Value :=
  .record ([("type", .text family.recordType), ("name", .text domain.print),
    ("content", .text address.print), ("ttl", .nat attributes.ttl.toNat),
    ("proxied", .bool attributes.proxied)] ++ textField "comment" attributes.comment)

def addressBody (address : Address) : Value := .record [("content", .text address.print)]

def newListBody (name description : String) : Value :=
  .record [("name", .text name), ("description", .text description), ("kind", .text "ip")]

def newItemsBody (blocks : List Block) (comment : String) : Value :=
  .array (blocks.map fun block => .record (("ip", .text block.print) :: textField "comment" comment))

def itemIdsBody (ids : List String) : Value :=
  .record [("items", .array (ids.map fun id => .record [("id", .text id)]))]

def changeRequest? : Call → Option (Method × String × Option Value)
  | .createRecord zone domain family address attributes =>
    some (.post, recordsPath zone, some (newRecordBody domain family address attributes))
  | .updateRecord zone _ _ id address =>
    some (.patch, recordPath zone id, some (addressBody address))
  | .deleteRecord zone id => some (.delete, recordPath zone id, none)
  | .createList account name description =>
    some (.post, listsPath account, some (newListBody name description))
  | .deleteList account id => some (.delete, listPath account id, none)
  | .createItems account id blocks comment =>
    some (.post, itemsPath account id, some (newItemsBody blocks comment))
  | .deleteItems account id ids => some (.delete, itemsPath account id, some (itemIdsBody ids))
  | .replaceItems account id blocks =>
    some (.put, itemsPath account id, some (newItemsBody blocks ""))
  | .listZones _ | .listRecords .. | .listLists _ | .listItems .. => none

/-- Why a call is not even begun: the address it carries is of another family. -/
def objection? : Call → Option Failure
  | .createRecord _ _ family address _ | .updateRecord _ _ family _ address =>
    if address.family ≠ family then
      some (.invalidInput s!"{address} is not an {family.name} address")
    else none
  | _ => none

def madeUpItems (made : Nat) : List Block → List ListItem
  | [] => []
  | block :: rest => ⟨madeUpId (made + 1), block⟩ :: madeUpItems (made + 1) rest

namespace Client

/-- What a trial client answers to a change, and itself with the identifiers used counted. -/
def pretend (c : Client) : (call : Call) → Option (call.Reply × Client)
  | .createRecord _ _ _ address attributes =>
    some (⟨madeUpId (c.made + 1), address, attributes⟩, { c with made := c.made + 1 })
  | .updateRecord .. => some ((), c)
  | .deleteRecord .. => some ((), c)
  | .createList _ name description =>
    some (⟨madeUpId (c.made + 1), name, description, "ip"⟩, { c with made := c.made + 1 })
  | .deleteList .. => some ((), c)
  | .createItems _ _ blocks _ =>
    some (madeUpItems c.made blocks, { c with made := c.made + blocks.length })
  | .deleteItems .. => some ((), c)
  | .replaceItems .. => some ((), c)
  | .listZones _ | .listRecords .. | .listLists _ | .listItems .. => none

/-- A call by the requests that it takes; a listing may send `allowance` of them. -/
def transact (c : Client) (allowance : Nat) : (call : Call) → Http (Except Failure call.Reply)
  | .listZones name => c.zones name
  | .listRecords zone domain family => c.recordsFrom zone domain.print family allowance 1 []
  | .createRecord zone domain family address attributes => do
    match ← c.fetch "create record" RecordBody.ofJson? .post (recordsPath zone) []
        (some (newRecordBody domain family address attributes)) with
    | .error e => return .error e
    | .ok body => return body.record family
  | .updateRecord zone _ _ id address =>
    c.execute "update record" .patch (recordPath zone id) (some (addressBody address))
  | .deleteRecord zone id => c.execute "delete record" .delete (recordPath zone id)
  | .listLists account => c.lists account
  | .createList account name description => do
    match ← c.fetch "create IP list" ListBody.ofJson? .post (listsPath account) []
        (some (newListBody name description)) with
    | .error e => return .error e
    | .ok body => return .ok body.list
  | .deleteList account id => c.execute "delete IP list" .delete (listPath account id)
  | .listItems account id => c.itemsFrom account id allowance none []
  | .createItems account id blocks comment => do
    match ← c.operate "add IP list items" .post account id (newItemsBody blocks comment) with
    | .error e => return .error e
    | .ok () =>
      match ← c.itemsFrom account id allowance none [] with
      | .error e => return .error e
      | .ok items => return .ok (items.filter fun item => blocks.contains item.block)
  | .deleteItems account id ids =>
    c.operate "remove IP list items" .delete account id (itemIdsBody ids)
  | .replaceItems account id blocks => do
    match ← c.fetch "replace IP list items" operationOfJson? .put (itemsPath account id) []
        (some (newItemsBody blocks "")) with
    | .error e => return .error e
    | .ok operation =>
      log .debug "replacement of IP list items started"
        [("list_id", .text id), ("operation_id", .text operation)]
      return .ok ()

def perform (c : Client) (allowance : Nat) (call : Call) :
    Http (Except Failure call.Reply × Client) := do
  match objection? call with
  | some e => return (.error e, c)
  | none =>
    match c.trial, changeRequest? call, c.pretend call with
    | true, some (method, path, body), some (reply, next) =>
      c.announce method path body
      return (.ok reply, next)
    | _, _, _ => return (← c.transact allowance call, c)

def verifyToken (c : Client) : Http (Except Failure Unit) := do
  match ← c.fetch "verify token" tokenStatusOfJson? .get "/user/tokens/verify" with
  | .error e => return .error e
  | .ok status =>
    if status ≠ "active" then return .error (.authentication s!"API token is {status}")
    log .debug "API token verified" []
    return .ok ()

end Client

end AddressSync.Cloudflare
