import AddressSync.Directory.Through

/-! Which zone owns a domain. The names that such a zone may have are asked for from the longest
on, and the first one that any usable zone has decides. -/

namespace AddressSync.Directory

open Sync

def zones (name : String) : Sync (Except Failure (List Zone)) :=
  fetch (.listZones name) (fun now c => c.zones.get? now name)
    (log .debug "zone list cache hit" [("zone_name", .text name)])
    id fun zones now c => { c with zones := c.zones.set now name zones }

/-- Deleted zones are passed over; any other zone may own domains. -/
def isUsable (zone : Zone) : Bool := zone.status ≠ .deleted

def remark (name : String) (zone : Zone) : Sync Unit :=
  let place := [("zone", .text name), ("zone_id", .text zone.id)]
  let status := place ++ [("status", .text zone.status.word)]
  match zone.status with
  | .active => return
  | .deleted => log .debug "ignoring deleted zone" place
  | .pending | .initializing =>
    log .warn "zone is not active yet; its records may not be served" status
  | .moved | .deactivated =>
    log .warn "zone is no longer active; its records are likely not served" status
  | .unknown _ => log .warn "zone has an unrecognized status" status

def ownerAmong (domain : Domain) : List String → Sync (Except Failure String)
  | [] => return .error (.zoneNotFound domain.print)
  | name :: rest => do
    match ← zones name with
    | .error e => return .error e
    | .ok found =>
      found.forM (remark name)
      match found.filter isUsable with
      | [] => ownerAmong domain rest
      | [zone] =>
        log .debug "resolved zone"
          [("domain", .text domain.print), ("zone", .text zone.name), ("zone_id", .text zone.id)]
        revise fun now c => { c with owners := c.owners.set now domain zone.id }
        return .ok zone.id
      | many => return .error (.ambiguousZone name many.length)

def owner (domain : Domain) : Sync (Except Failure String) := do
  let (now, caches) ← look
  match caches.owners.get? now domain with
  | some zone =>
    log .debug "zone cache hit" [("domain", .text domain.print), ("zone_id", .text zone)]
    return .ok zone
  | none => ownerAmong domain domain.zoneNames

def flush : Sync Unit := revise fun _ c => c.flush

end AddressSync.Directory
