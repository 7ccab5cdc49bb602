import AddressSync.Json.Fields
import AddressSync.Json.Parser
import AddressSync.Settings

/-! Configurations as JSON. Fields that are left out have defaults, except for those that no
default fits; the provider's settings name their kind beside the other fields. -/

namespace AddressSync

open Json

def Family.ofJson? (v : Value) : Option Family := v.word?.bind Family.ofTag?

def Family.toJson (f : Family) : Value := .text f.tag

def Domain.ofJson? (v : Value) : Option Domain :=
  v.string?.bind fun s => (Domain.parse s).toOption

def Domain.toJson (d : Domain) : Value := .text d.print

def Access.kind : String := "cloudflare"

def Access.ofFields? (f : Fields) : Option Access := do
  return { token := ← f.required "api_token" Value.string?
           trial := ← f.withDefault "dry_run" false Value.bool? }

def Access.fieldNames : List String := ["api_token", "dry_run"]

/-- Reads the kind first and the other fields after it, which needs the whole value to be sound;
as an array, the kind is the first item. -/
def Access.ofJson? (v : Value) : Option Access :=
  if !v.isSound (maxDepth - 1) then none
  else match v with
    | .object entries =>
      let (kinds, others) := entries.partition fun entry => entry.1 == some "type"
      match kinds with
      | [(_, .string (some k))] =>
        if k = kind then ((Value.object others).fields? fieldNames).bind ofFields? else none
      | _ => none
    | .array (.string (some k) :: others) =>
      if k = kind then ((Value.array others).fields? fieldNames).bind ofFields? else none
    | _ => none

def Access.toJson (a : Access) : Value :=
  .record [("type", .text kind), ("api_token", .text a.token), ("dry_run", .bool a.trial)]

def Attributes.ofJson? (v : Value) : Option Attributes := do
  let f ← v.fields? ["ttl", "proxied", "comment"]
  let d : Attributes := {}
  return { ttl := ← f.withDefault "ttl" d.ttl Value.uint32?
           proxied := ← f.withDefault "proxied" d.proxied Value.bool?
           comment := ← f.withDefault "comment" d.comment Value.string? }

def Attributes.toJson (a : Attributes) : Value :=
  .record [("ttl", .nat a.ttl.toNat), ("proxied", .bool a.proxied), ("comment", .text a.comment)]

def ListTarget.ofJson? (v : Value) : Option ListTarget := do
  let f ← v.fields? ["account_id", "name", "description", "item_comment"]
  return { account := ← f.required "account_id" Value.string?
           name := ← f.required "name" Value.string?
           description := ← f.withDefault "description" "" Value.string?
           itemComment := ← f.withDefault "item_comment" "" Value.string? }

def ListTarget.toJson (l : ListTarget) : Value :=
  .record [("account_id", .text l.account), ("name", .text l.name),
    ("description", .text l.description), ("item_comment", .text l.itemComment)]

def cacheLifetimeOfJson? (v : Value) : Option UInt64 := do
  let f ← v.fields? ["ttl_secs"]
  f.withDefault "ttl_secs" defaultCacheLifetime Value.uint64?

def Timing.ofJson? (v : Value) : Option Timing := do
  let f ← v.fields? ["update_interval_secs", "detection_timeout_secs", "update_timeout_secs",
    "update_on_start", "delete_on_stop", "event_channel_capacity"]
  let d : Timing := {}
  return { interval := ← f.withDefault "update_interval_secs" d.interval Value.uint64?
           detectionLimit := ← f.withDefault "detection_timeout_secs" d.detectionLimit Value.uint64?
           updateLimit := ← f.withDefault "update_timeout_secs" d.updateLimit Value.uint64?
           updateOnStart := ← f.withDefault "update_on_start" d.updateOnStart Value.bool?
           deleteOnStop := ← f.withDefault "delete_on_stop" d.deleteOnStop Value.bool?
           eventCapacity := ← f.withDefault "event_channel_capacity" d.eventCapacity Value.uint64? }

def Timing.toJson (t : Timing) : Value :=
  .record [("update_interval_secs", .nat t.interval.toNat),
    ("detection_timeout_secs", .nat t.detectionLimit.toNat),
    ("update_timeout_secs", .nat t.updateLimit.toNat),
    ("update_on_start", .bool t.updateOnStart), ("delete_on_stop", .bool t.deleteOnStop),
    ("event_channel_capacity", .nat t.eventCapacity.toNat)]

abbrev DomainMap := Option (List Domain) × Option (List Domain)

/-- Of two entries for one family the later one counts. -/
def domainMapOfEntries? (map : DomainMap) : List (Content × Value) → Option DomainMap
  | [] => some map
  | (key, v) :: rest => do
    let family ← key.bind Family.ofTag?
    let domains ← v.list? Domain.ofJson?
    match family with
    | .v4 => domainMapOfEntries? (some domains, map.2) rest
    | .v6 => domainMapOfEntries? (map.1, some domains) rest

def domainMapOfJson? : Value → Option DomainMap
  | .object entries => domainMapOfEntries? (none, none) entries
  | _ => none

def domainsToJson (domains : List Domain) : Value := .array (domains.map Domain.toJson)

def domainMapToJson (map : DomainMap) : Value :=
  .record ((map.1.toList.map fun domains => ("v4", domainsToJson domains)) ++
    map.2.toList.map fun domains => ("v6", domainsToJson domains))

namespace Settings

def ofJson? (v : Value) : Option Settings := do
  let f ← v.fields?
    ["provider", "families", "domains", "waf_lists", "record_attrs", "cache", "engine"]
  let domains ← f.withDefault "domains" (none, none) domainMapOfJson?
  return { access := ← f.required "provider" Access.ofJson?
           families := ← f.withDefault "families" Family.all (Value.list? Family.ofJson?)
           domainsV4 := domains.1
           domainsV6 := domains.2
           lists := ← f.withDefault "waf_lists" [] (Value.list? ListTarget.ofJson?)
           attributes := ← f.withDefault "record_attrs" {} Attributes.ofJson?
           cacheLifetime := ← f.withDefault "cache" defaultCacheLifetime cacheLifetimeOfJson?
           timing := ← f.withDefault "engine" {} Timing.ofJson? }

def toJson (s : Settings) : Value :=
  .record [("provider", s.access.toJson), ("families", .array (s.families.map Family.toJson)),
    ("domains", domainMapToJson (s.domainsV4, s.domainsV6)),
    ("waf_lists", .array (s.lists.map ListTarget.toJson)),
    ("record_attrs", s.attributes.toJson),
    ("cache", .record [("ttl_secs", .nat s.cacheLifetime.toNat)]),
    ("engine", s.timing.toJson)]

def parse (text : String) : Except Failure Settings :=
  match (Json.parse? text).bind ofJson? with
  | some settings => .ok settings
  | none => .error .json

end Settings

/-- How the provider's settings are shown where others may read: the token never is. -/
def Access.describe (a : Access) : String :=
  s!"Cloudflare \x7b api_token: \"<REDACTED>\", dry_run: {a.trial} \x7d"

end AddressSync
