import AddressSync.Directory.Through

/-! Address records, read through the cache. A change that the provider confirms is made in the
cached records too; after one that failed, which may have happened all the same, they are
forgotten. -/

namespace AddressSync.Directory

open Sync

def dropRecords (key : RecordsKey) (c : Caches) : Caches :=
  { c with records := c.records.erase key }

def patchRecords (key : RecordsKey) (change : List Record → List Record) (now : Nat)
    (c : Caches) : Caches :=
  { c with records := c.records.modify now key change }

def records (zone : String) (domain : Domain) (family : Family) :
    Sync (Except Failure (List Record)) :=
  fetch (.listRecords zone domain family) (fun now c => c.records.get? now ⟨zone, domain, family⟩)
    (log .debug "record list cache hit"
      [("domain", .text domain.print), ("family", .text family.name)])
    id fun records now c =>
      { c with records := c.records.set now ⟨zone, domain, family⟩ records }

def forgetRecords (key : RecordsKey) : Sync Unit := revise fun _ c => dropRecords key c

def createRecord (zone : String) (domain : Domain) (family : Family) (address : Address)
    (attributes : Attributes) : Sync (Except Failure Record) :=
  change (.createRecord zone domain family address attributes)
    (fun record => patchRecords ⟨zone, domain, family⟩ (· ++ [record]))
    (dropRecords ⟨zone, domain, family⟩)

def readdress (id : String) (address : Address) (r : Record) : Record :=
  if r.id = id then { r with address } else r

def updateRecord (zone : String) (domain : Domain) (family : Family) (id : String)
    (address : Address) : Sync (Except Failure Unit) :=
  change (.updateRecord zone domain family id address)
    (fun _ => patchRecords ⟨zone, domain, family⟩ (·.map (readdress id address)))
    (dropRecords ⟨zone, domain, family⟩)

def deleteRecord (zone : String) (domain : Domain) (family : Family) (id : String) :
    Sync (Except Failure Unit) :=
  change (.deleteRecord zone id)
    (fun _ => patchRecords ⟨zone, domain, family⟩ (·.filter (·.id ≠ id)))
    (dropRecords ⟨zone, domain, family⟩)

end AddressSync.Directory
