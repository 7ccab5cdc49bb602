import AddressSync.Directory.Through

/-! The lists of an account and their items, read through the caches, which follow the provider as
those of records do. -/

namespace AddressSync.Directory

open Sync

def index (account : String) : Sync (Except Failure ListIndex) :=
  fetch (.listLists account) (fun now c => c.indexes.get? now account)
    (log .debug "list index cache hit" [("account", .text account)])
    ListIndex.ofLists fun index now c => { c with indexes := c.indexes.set now account index }

def dropItems (id : String) (c : Caches) : Caches := { c with items := c.items.erase id }

def patchItems (id : String) (change : List ListItem → List ListItem) (now : Nat) (c : Caches) :
    Caches :=
  { c with items := c.items.modify now id change }

def forgetIndex (account : String) : Sync Unit :=
  revise fun _ c => { c with indexes := c.indexes.erase account }

def forgetItems (id : String) : Sync Unit := revise fun _ c => dropItems id c

def findList (target : ListTarget) : Sync (Except Failure (Option NamedList)) := do
  match ← index target.account with
  | .error e => return .error e
  | .ok index => return .ok (index.find? target.name)

def obtainList (target : ListTarget) : Sync (Except Failure (NamedList × Bool)) := do
  match ← findList target with
  | .error e => return .error e
  | .ok (some list) =>
    if target.description ≠ "" ∧ list.description ≠ target.description then
      log .warn
        "IP list description differs from the configured one; leaving it unchanged"
        [("list", .text target.print), ("expected", .text target.description),
          ("actual", .text list.description)]
    return .ok (list, false)
  | .ok none =>
    match ← call (.createList target.account target.name target.description) with
    | .ok list =>
      revise fun now c =>
        { c with indexes := c.indexes.modify now target.account (·.insert list) }
      revise fun now c => { c with items := c.items.set now list.id [] }
      return .ok (list, true)
    | .error e =>
      forgetIndex target.account
      return .error e

def deleteList (target : ListTarget) (id : String) : Sync (Except Failure Unit) := do
  match ← call (.deleteList target.account id) with
  | .ok _ =>
    revise fun now c => { c with indexes := c.indexes.modify now target.account (·.dropId id) }
    forgetItems id
    return .ok ()
  | .error e =>
    forgetIndex target.account
    forgetItems id
    return .error e

def items (target : ListTarget) (id : String) : Sync (Except Failure (List ListItem)) :=
  fetch (.listItems target.account id) (fun now c => c.items.get? now id)
    (log .debug "list item cache hit" [("list", .text target.print)])
    (fun items => items) fun items now c => { c with items := c.items.set now id items }

def addItems (target : ListTarget) (id : String) (blocks : List Block) :
    Sync (Except Failure (List ListItem)) :=
  change (.createItems target.account id blocks target.itemComment)
    (fun created => patchItems id (· ++ created)) (dropItems id)

def removeItems (target : ListTarget) (id : String) (ids : List String) :
    Sync (Except Failure Unit) :=
  change (.deleteItems target.account id ids)
    (fun _ => patchItems id (·.filter fun item => !ids.contains item.id)) (dropItems id)

/-- Starts to replace the items of a list. As the provider may finish later, what was cached is
forgotten in any case. -/
def replaceItems (target : ListTarget) (id : String) (blocks : List Block) :
    Sync (Except Failure Unit) := do
  let result ← call (.replaceItems target.account id blocks)
  forgetItems id
  return result

end AddressSync.Directory
