import AddressSync.Address.Detected
import AddressSync.Directory.Lists

/-! Bringing a list to hold the detected addresses: what the items should be, and the one batch of
additions and one of removals that get there. Additions come first. -/

namespace AddressSync.Reconcile

open Sync

inductive Sighting
  | unmanaged
  | unknown
  | seen (address : Address)
  deriving DecidableEq, Repr

structure Sightings where
  v4 : Sighting := .unmanaged
  v6 : Sighting := .unmanaged
  deriving DecidableEq, Repr

def Sightings.of (s : Sightings) : Family → Sighting | .v4 => s.v4 | .v6 => s.v6

def Sightings.set (s : Sightings) (family : Family) (sighting : Sighting) : Sightings :=
  match family with
  | .v4 => { s with v4 := sighting }
  | .v6 => { s with v6 := sighting }

inductive Goal
  | cover (address : Address)
  | keep
  | nothing
  deriving DecidableEq, Repr

/-- An address of the other family is as good as none. -/
def Sightings.goal (s : Sightings) (family : Family) : Goal :=
  match s.of family with
  | .unmanaged => .nothing
  | .unknown => .keep
  | .seen address => if address.family = family then .cover address else .keep

def Sightings.isExcess (s : Sightings) (item : ListItem) : Bool :=
  match s.goal item.block.family with
  | .cover address => !item.block.contains address
  | .keep => false
  | .nothing => true

def Sightings.excess (s : Sightings) (items : List ListItem) : List ListItem :=
  items.filter s.isExcess

def Sightings.missingFor (s : Sightings) (items : List ListItem) (family : Family) :
    Option Block :=
  match s.goal family with
  | .cover address =>
    if items.any (·.block.contains address) then none else some address.listedBlock
  | .keep | .nothing => none

def Sightings.missing (s : Sightings) (items : List ListItem) : List Block :=
  Family.all.filterMap (s.missingFor items)

def remarkKept (list : String) (s : Sightings) (family : Family) : Sync Unit :=
  match s.goal family with
  | .keep => log .debug "address unknown; keeping existing items"
      [("list", .text list), ("family", .text family.name)]
  | .cover _ | .nothing => return

def addBatch (target : ListTarget) (id : String) (blocks : List Block) : Sync Bool := do
  match ← Directory.addItems target id blocks with
  | .ok _ =>
    blocks.forM fun block => log .info "added prefix to IP list"
      [("list", .text target.print), ("prefix", .text block.print)]
    return true
  | .error e =>
    log .error s!"failed to add prefixes to IP list: {e}"
      [("list", .text target.print), ("count", .number blocks.length)]
    return false

def removeBatch (target : ListTarget) (id : String) (items : List ListItem) : Sync Bool := do
  match ← Directory.removeItems target id (items.map ListItem.id) with
  | .ok _ =>
    items.forM fun item => log .info "removed prefix from IP list"
      [("list", .text target.print), ("prefix", .text item.block.print)]
    return true
  | .error e =>
    log .error s!"failed to remove prefixes from IP list: {e}"
      [("list", .text target.print), ("count", .number items.length)]
    return false

/-- Makes the changes that a list needs. Items to remove stay when what replaces them could not be
added. `changed` tells whether the list was changed before. -/
def exchange (target : ListTarget) (id : String) (missing : List Block) (excess : List ListItem)
    (changed : Bool) : Sync (Outcome × Bool) := do
  if !missing.isEmpty then
    if !(← addBatch target id missing) then return (.failed, false)
  if excess.isEmpty then return (.updated, false)
  let changed := changed || !missing.isEmpty
  if ← stopRequested then
    log .warn "cancelled before removing outdated IP list items" [("list", .text target.print)]
    return (if changed then .updated else .failed, true)
  if ← removeBatch target id excess then return (.updated, false)
  return (.failed, false)

def populate (target : ListTarget) (s : Sightings) : Sync Report := do
  let subject : Subject := .list target.print
  if ← stopRequested then return ⟨subject, .failed, true⟩
  match ← Directory.obtainList target with
  | .error e =>
    log .error s!"failed to find or create IP list: {e}" [("list", .text target.print)]
    return ⟨subject, .failed, false⟩
  | .ok (list, created) =>
    if created then
      log .info "created IP list" [("list", .text target.print), ("list_id", .text list.id)]
    match ← Directory.items target list.id with
    | .error e =>
      log .error s!"failed to list IP list items: {e}" [("list", .text target.print)]
      return ⟨subject, .failed, false⟩
    | .ok items =>
      Family.all.forM (remarkKept target.print s)
      let missing := s.missing items
      let excess := s.excess items
      if missing.isEmpty && excess.isEmpty then
        log .debug "IP list already up to date" [("list", .text target.print)]
        return ⟨subject, if created then .updated else .unchanged, false⟩
      let (outcome, stopped) ← exchange target list.id missing excess created
      return ⟨subject, outcome, stopped⟩

/-- Removes a list for good. One that the provider does not let go, as something still refers to
it, is emptied instead. -/
def retire (target : ListTarget) : Sync Report := do
  let subject : Subject := .list target.print
  if ← stopRequested then return ⟨subject, .failed, true⟩
  Directory.forgetIndex target.account
  match ← Directory.findList target with
  | .error e =>
    log .error s!"failed to look up IP list: {e}" [("list", .text target.print)]
    return ⟨subject, .failed, false⟩
  | .ok none =>
    log .debug "IP list does not exist; nothing to clear" [("list", .text target.print)]
    return ⟨subject, .unchanged, false⟩
  | .ok (some list) =>
    let here := [("list", .text target.print), ("list_id", .text list.id)]
    match ← Directory.deleteList target list.id with
    | .ok _ =>
      log .info "deleted IP list" here
      return ⟨subject, .updated, false⟩
    | .error e =>
      log .warn s!"failed to delete IP list ({e}); emptying it instead"
        [("list", .text target.print)]
      match ← Directory.replaceItems target list.id [] with
      | .ok _ =>
        log .info "started emptying IP list" here
        return ⟨subject, .updating, false⟩
      | .error e =>
        log .error s!"failed to start emptying IP list: {e}" [("list", .text target.print)]
        return ⟨subject, .failed, false⟩

end AddressSync.Reconcile
