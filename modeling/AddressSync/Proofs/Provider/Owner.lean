import AddressSync.Directory.Zones
import AddressSync.Proofs.Provider.Lists

/-! Which zone owns a domain by what the provider holds, and what is listed there. No call changes
the zones, so that the owner of a domain is one and the same throughout every run. -/

namespace AddressSync

open Sync Simulation Directory

namespace Simulation.Provider

def ownerAmong (p : Provider) (domain : Domain) : List String → Except Failure String
  | [] => .error (.zoneNotFound domain.print)
  | name :: rest =>
    match (p.zones.filter (·.name = name)).filter isUsable with
    | [] => p.ownerAmong domain rest
    | [zone] => .ok zone.id
    | many => .error (.ambiguousZone name many.length)

def ownerOf (p : Provider) (domain : Domain) : Except Failure String :=
  p.ownerAmong domain domain.zoneNames

def listing (p : Provider) (domain : Domain) (family : Family) : List Record :=
  match p.ownerOf domain with
  | .ok zone => p.recordsOf zone domain.print family
  | .error _ => []

theorem listing_of_owner {p : Provider} {domain : Domain} {zone : String} (family : Family)
    (owned : p.ownerOf domain = .ok zone) :
    p.listing domain family = p.recordsOf zone domain.print family := by
  rw [listing, owned]

def located (p : Provider) (domain : Domain) (family : Family) : Option (String × List Record) :=
  match p.ownerOf domain with
  | .ok zone => some (zone, p.recordsOf zone domain.print family)
  | .error _ => none

theorem zones_perform (p : Provider) (c : Call) : (p.perform c).2.zones = p.zones := by
  cases c with
  | updateRecord zone domain family id address =>
    rw [perform]
    split <;> rfl
  | deleteRecord zone id =>
    rw [perform]
    split <;> rfl
  | deleteItems account id ids =>
    rw [perform]
    split
    · exact (changeItems_frame ..).1
    · rfl
  | createList | createItems | replaceItems => exact (changeItems_frame ..).1
  | _ => rfl

theorem Ends.zones {p p' : Provider} {c : Call} {reply : Except Failure c.Reply}
    (ends : p.Ends c reply p') : p'.zones = p.zones := by
  rcases ends.either with rfl | rfl
  · rfl
  · exact p.zones_perform c

theorem ownerAmong_congr {p p' : Provider} (same : p'.zones = p.zones) (domain : Domain)
    (names : List String) : p'.ownerAmong domain names = p.ownerAmong domain names := by
  induction names with
  | nil => rfl
  | cons name rest ih => rw [ownerAmong, ownerAmong, same, ih]

theorem listing_congr {p p' : Provider} (zones : p'.zones = p.zones)
    (records : p'.records = p.records) (domain : Domain) (family : Family) :
    p'.listing domain family = p.listing domain family := by
  unfold listing ownerOf recordsOf
  rw [ownerAmong_congr zones, records]

end Simulation.Provider

variable {α : Type} {p : Sync α} {s s' : Scene} {es : List Moment} {a : α}

theorem Sync.Runs.zones (run : Sync.Runs p s es a s') :
    s'.provider.zones = s.provider.zones ∧
      ∀ m ∈ es, m.Throughout (·.zones = s.provider.zones) := by
  refine run.throughout (P := fun p => p.zones = s.provider.zones)
    (fun p c reply p' ends same => ?_) rfl
  exact ends.zones.trans same

theorem Sync.Runs.ownerOf (run : Sync.Runs p s es a s') (domain : Domain) :
    s'.provider.ownerOf domain = s.provider.ownerOf domain :=
  Provider.ownerAmong_congr run.zones.1 domain domain.zoneNames

end AddressSync
