import AddressSync.Directory.Records
import AddressSync.Directory.Zones

/-! Bringing the records of one family at a domain to what is wanted. What exists is used before
anything is made, and nothing is removed before what replaces it is there. A call that failed is
not made again, and what was done stays done; requests to stop are heeded between calls. -/

namespace AddressSync.Reconcile

open Sync

def place (domain : Domain) (family : Family) : List (String × Log.Field) :=
  [("domain", .text domain.print), ("family", .text family.name)]

def logIntegrity (message : String) (domain : Domain) (family : Family) (e : Failure) : Sync Unit :=
  log .error s!"{message}: {e}"
    (place domain family ++ [("data_integrity", .flag e.isIntegrity)])

def remarkAttributes (domain : Domain) (family : Family) (record : Record)
    (wanted : Attributes) : Sync Unit := do
  let warn (message : String) (actual configured : Log.Field) : Sync Unit :=
    log .warn message (place domain family ++
      [("record_id", .text record.id), ("actual", actual), ("configured", configured)])
  let held := record.attributes
  if held.ttl ≠ wanted.ttl then
    warn "record TTL differs from the configured one; keeping it"
      (.number held.ttl.toNat) (.number wanted.ttl.toNat)
  if held.proxied ≠ wanted.proxied then
    warn "record proxy setting differs from the configured one; keeping it"
      (.flag held.proxied) (.flag wanted.proxied)
  if held.comment ≠ wanted.comment then
    warn "record comment differs from the configured one; keeping it"
      (.text held.comment) (.text wanted.comment)

structure Progress where
  changed : Bool := false
  failed : Bool := false
  deriving DecidableEq, Repr

def Progress.outcome (p : Progress) : Outcome :=
  if p.failed then .failed else if p.changed then .updated else .unchanged

structure Target where
  zone : String
  domain : Domain
  family : Family
  address : Address
  attributes : Attributes

def repoint (t : Target) (stale : Record) : Sync (Option String × Progress) := do
  remarkAttributes t.domain t.family stale t.attributes
  let here := place t.domain t.family ++ [("record_id", .text stale.id)]
  match ← Directory.updateRecord t.zone t.domain t.family stale.id t.address with
  | .ok _ =>
    log .info "updated record"
      (here ++ [("from", .text stale.address.print), ("to", .text t.address.print)])
    return (some stale.id, { changed := true })
  | .error e =>
    log .warn s!"failed to update record: {e}" here
    return (none, { failed := true })

/-- Finds the record that stays among those there are: the first one with the wanted address, or
else the first one, repointed. -/
def keepOne (t : Target) (records : List Record) : Sync (Option String × Progress) :=
  match records.find? (·.address = t.address), records with
  | some record, _ => return (some record.id, {})
  | none, stale :: _ => repoint t stale
  | none, [] => return (none, {})

def createOne (t : Target) : Sync (Option String) := do
  match ← Directory.createRecord t.zone t.domain t.family t.address t.attributes with
  | .ok record =>
    log .info "created record" (place t.domain t.family ++
      [("record_id", .text record.id), ("ip", .text t.address.print)])
    return some record.id
  | .error e =>
    log .error s!"failed to create record: {e}"
      (place t.domain t.family ++ [("ip", .text t.address.print)])
    return none

def settle (t : Target) (records : List Record) : Sync (Option String × Progress) := do
  let (kept?, progress) ← keepOne t records
  match kept? with
  | some kept => return (some kept, progress)
  | none => return (← createOne t, { progress with changed := true })

/-- Deletes records, each by one call, unless asked to stop. Stopped early, the work still counts
as done if no call failed and no record that is left holds the wanted address. -/
def removeRest (t : Target) (p : Progress) : List Record → Sync (Outcome × Bool)
  | [] => return (p.outcome, false)
  | record :: rest => do
    if ← stopRequested then
      log .warn "cancelled before removing all outdated records"
        (place t.domain t.family ++ [("remaining", .number (rest.length + 1))])
      let converged := !p.failed && (record :: rest).all (·.address ≠ t.address)
      return (if converged then .updated else .failed, true)
    let kind := if record.address = t.address then "duplicate" else "stale"
    let here := place t.domain t.family ++ [("record_id", .text record.id)]
    match ← Directory.deleteRecord t.zone t.domain t.family record.id with
    | .ok _ =>
      log .info s!"deleted {kind} record" (here ++ [("ip", .text record.address.print)])
      removeRest t { p with changed := true } rest
    | .error e =>
      log .warn s!"failed to delete {kind} record: {e}" here
      removeRest t { p with failed := true } rest

def converge (t : Target) (records : List Record) : Sync (Outcome × Bool) := do
  match ← settle t records with
  | (none, _) => return (.failed, false)
  | (some kept, progress) =>
    let (outcome, stopped) ← removeRest t progress (records.filter (·.id ≠ kept))
    if outcome = .unchanged then
      log .debug "records already up to date"
        (place t.domain t.family ++ [("ip", .text t.address.print)])
    return (outcome, stopped)

def listed (zone : String) (domain : Domain) (family : Family) :
    Sync (Option (String × List Record)) := do
  match ← Directory.records zone domain family with
  | .error e =>
    logIntegrity "failed to list records" domain family e
    return none
  | .ok records => return some (zone, records)

def locate (domain : Domain) (family : Family) (fresh : Bool) :
    Sync (Option (String × List Record)) := do
  match ← Directory.owner domain with
  | .error e =>
    logIntegrity "failed to find zone" domain family e
    return none
  | .ok zone =>
    if fresh then Directory.forgetRecords ⟨zone, domain, family⟩
    listed zone domain family

/-- Makes an address the only one of its family at a domain. A record that has to be made gets the
given attributes; one that is repointed keeps its own. -/
def publish (domain : Domain) (family : Family) (address : Address) (attributes : Attributes) :
    Sync Report := do
  let subject : Subject := .records domain.print family
  if address.family ≠ family then
    log .error "address does not belong to the record family"
      (place domain family ++ [("ip", .text address.print)])
    return ⟨subject, .failed, false⟩
  if ← stopRequested then return ⟨subject, .failed, true⟩
  match ← locate domain family false with
  | none => return ⟨subject, .failed, false⟩
  | some (zone, records) =>
    let (outcome, stopped) ← converge ⟨zone, domain, family, address, attributes⟩ records
    return ⟨subject, outcome, stopped⟩

/-- Deletes records one after the other, unless asked to stop. `total` is how many there were and
`deleted` how many are gone. Stopped early, the work counts as done once something is gone and no
call failed. -/
def removeEach (zone : String) (domain : Domain) (family : Family) (last : Bool) (total : Nat)
    (deleted : Nat) (failed : Bool) : List Record → Sync (Outcome × Bool)
  | [] => return (if failed then .failed else .updated, false)
  | record :: rest => do
    if ← stopRequested then
      log .warn "cancelled while deleting records" (place domain family ++
        [("deleted", .number deleted), ("remaining", .number (total - deleted))])
      return (if 0 < deleted && !failed then .updated else .failed, true)
    let here := place domain family ++ [("record_id", .text record.id)]
    match ← Directory.deleteRecord zone domain family record.id with
    | .ok _ =>
      log .info "deleted record"
        (here ++ [("ip", .text record.address.print), ("final_cleanup", .flag last)])
      removeEach zone domain family last total (deleted + 1) failed rest
    | .error e =>
      log .warn s!"failed to delete record: {e}" here
      removeEach zone domain family last total deleted true rest

/-- Deletes all records of a family at a domain. The last time, they are listed afresh, so that
none made since they were last read is left behind. -/
def withdraw (domain : Domain) (family : Family) (last : Bool) : Sync Report := do
  let subject : Subject := .records domain.print family
  if ← stopRequested then return ⟨subject, .failed, true⟩
  match ← locate domain family last with
  | none => return ⟨subject, .failed, false⟩
  | some (_, []) =>
    log .debug "no records to delete" (place domain family)
    return ⟨subject, .unchanged, false⟩
  | some (zone, records) =>
    let (outcome, stopped) ← removeEach zone domain family last records.length 0 false records
    return ⟨subject, outcome, stopped⟩

end AddressSync.Reconcile
