import AddressSync.Proofs.Domain.Reading
import AddressSync.Proofs.Json.Shapes
import AddressSync.Settings.Json

/-! A configuration that was read is written as a value that is read as the same configuration. -/

namespace AddressSync

open Json

theorem Family.ofJson?_toJson (f : Family) : ofJson? f.toJson = some f := by
  cases f <;> rfl

theorem Domain.ofJson?_toJson {d : Domain} (h : d.IsParsed) : ofJson? d.toJson = some d :=
  congrArg Except.toOption h.parse_print

theorem Domain.isParsed_of_ofJson? {v : Value} {d : Domain} (read : ofJson? v = some d) :
    d.IsParsed := by
  obtain ⟨text, -, parsed⟩ := Option.bind_eq_some_iff.mp read
  refine ⟨text, ?_⟩
  cases result : parse text with
  | error refusal =>
    rw [result] at parsed
    cases parsed
  | ok d' =>
    rw [result] at parsed
    cases parsed
    rfl

theorem Access.ofJson?_toJson (a : Access) : ofJson? a.toJson = some a := rfl

theorem Attributes.ofJson?_toJson (a : Attributes) : ofJson? a.toJson = some a := by
  have fields : a.toJson.fields? ["ttl", "proxied", "comment"] = some ⟨true, _⟩ :=
    fields?_record rfl (by decide)
  simp [ofJson?, fields, Fields.withDefault]

theorem ListTarget.ofJson?_toJson (l : ListTarget) : ofJson? l.toJson = some l := by
  have fields : l.toJson.fields? ["account_id", "name", "description", "item_comment"] =
      some ⟨true, _⟩ := fields?_record rfl (by decide)
  simp [ofJson?, fields, Fields.required, Fields.withDefault]

theorem Timing.ofJson?_toJson (t : Timing) : ofJson? t.toJson = some t := by
  have fields : t.toJson.fields? ["update_interval_secs", "detection_timeout_secs",
      "update_timeout_secs", "update_on_start", "delete_on_stop", "event_channel_capacity"] =
      some ⟨true, _⟩ := fields?_record rfl (by decide)
  simp [ofJson?, fields, Fields.withDefault]

theorem cacheLifetimeOfJson?_record (lifetime : UInt64) :
    cacheLifetimeOfJson? (.record [("ttl_secs", .nat lifetime.toNat)]) = some lifetime := by
  have fields : (Value.record [("ttl_secs", .nat lifetime.toNat)]).fields? ["ttl_secs"] =
      some ⟨true, _⟩ := fields?_record rfl (by decide)
  simp [cacheLifetimeOfJson?, fields, Fields.withDefault]

def DomainMap.IsParsed (map : DomainMap) : Prop :=
  (∀ domains ∈ map.1, ∀ d ∈ domains, d.IsParsed) ∧ ∀ domains ∈ map.2, ∀ d ∈ domains, d.IsParsed

theorem list?_domainsToJson {domains : List Domain} (h : ∀ d ∈ domains, d.IsParsed) :
    (domainsToJson domains).list? Domain.ofJson? = some domains :=
  list?_array fun d mem => Domain.ofJson?_toJson (h d mem)

theorem domainMapOfJson?_toJson {map : DomainMap} (h : DomainMap.IsParsed map) :
    domainMapOfJson? (domainMapToJson map) = some map := by
  obtain ⟨v4, v6⟩ := map
  have list4 : ∀ domains ∈ v4, (domainsToJson domains).list? Domain.ofJson? = some domains :=
    fun domains mem => list?_domainsToJson (h.1 domains mem)
  have list6 : ∀ domains ∈ v6, (domainsToJson domains).list? Domain.ofJson? = some domains :=
    fun domains mem => list?_domainsToJson (h.2 domains mem)
  cases v4 <;> cases v6 <;>
    simp_all [domainMapOfJson?, domainMapToJson, Value.record, domainMapOfEntries?, Family.ofTag?]

theorem isParsed_of_list? {v : Value} {domains : List Domain}
    (read : v.list? Domain.ofJson? = some domains) : ∀ d ∈ domains, d.IsParsed := by
  intro d mem
  cases v with
  | array items =>
    obtain ⟨item, -, read⟩ := exists_of_mem_readAll read mem
    exact Domain.isParsed_of_ofJson? read
  | _ => cases read

theorem isParsed_of_domainMapOfEntries? {map done : DomainMap} {entries : List (Content × Value)}
    (before : DomainMap.IsParsed map) (read : domainMapOfEntries? map entries = some done) :
    DomainMap.IsParsed done := by
  induction entries generalizing map with
  | nil =>
    cases read
    exact before
  | cons entry rest ih =>
    obtain ⟨key, v⟩ := entry
    obtain ⟨family, -, read⟩ := Option.bind_eq_some_iff.mp read
    obtain ⟨domains, list, read⟩ := Option.bind_eq_some_iff.mp read
    have parsed := isParsed_of_list? list
    cases family with
    | v4 =>
      have next : DomainMap.IsParsed (some domains, map.2) :=
        ⟨fun _ mem => Option.mem_some.mp mem ▸ parsed, before.2⟩
      exact ih next read
    | v6 =>
      have next : DomainMap.IsParsed (map.1, some domains) :=
        ⟨before.1, fun _ mem => Option.mem_some.mp mem ▸ parsed⟩
      exact ih next read

namespace Settings

variable {s : Settings} {v : Value}

theorem isParsed_of_ofJson? (read : ofJson? v = some s) :
    DomainMap.IsParsed (s.domainsV4, s.domainsV6) := by
  simp only [ofJson?, Option.bind_eq_bind, Option.bind_eq_some_iff, Option.pure_def,
    Option.some.injEq] at read
  obtain ⟨fields, -, map, domains, -, -, -, -, -, -, -, -, -, -, -, -, rfl⟩ := read
  have none : DomainMap.IsParsed (none, none) := ⟨nofun, nofun⟩
  rw [Fields.withDefault] at domains
  split at domains
  · cases domains
    exact none
  · next v _ =>
    cases v with
    | object entries => exact isParsed_of_domainMapOfEntries? none domains
    | _ => cases domains

theorem ofJson?_toJson (parsed : DomainMap.IsParsed (s.domainsV4, s.domainsV6)) :
    ofJson? s.toJson = some s := by
  have fields : s.toJson.fields? ["provider", "families", "domains", "waf_lists", "record_attrs",
      "cache", "engine"] = some ⟨true, _⟩ := fields?_record rfl (by decide)
  have families : (Value.array (s.families.map Family.toJson)).list? Family.ofJson? =
      some s.families := list?_array fun f _ => f.ofJson?_toJson
  have lists : (Value.array (s.lists.map ListTarget.toJson)).list? ListTarget.ofJson? =
      some s.lists := list?_array fun l _ => l.ofJson?_toJson
  simp [ofJson?, fields, Fields.required, Fields.withDefault, s.access.ofJson?_toJson, families,
    domainMapOfJson?_toJson parsed, lists, s.attributes.ofJson?_toJson, cacheLifetimeOfJson?_record,
    s.timing.ofJson?_toJson]

/-- A configuration that was read, from whatever value, is written as a value that is read as the
same configuration, in which the same flaw is found or none. -/
theorem written_reads_back (read : ofJson? v = some s) :
    ∃ again, ofJson? s.toJson = some again ∧ again = s ∧ again.validate = s.validate :=
  ⟨s, ofJson?_toJson (isParsed_of_ofJson? read), rfl, rfl⟩

def terse : Value :=
  .array [.array [.text "cloudflare", .text "secret"], .array [.text "v6"],
    .record [("v4", .array []), ("v6", .array [.text " *.Example.COM. ", .text "example.com"])]]

theorem written_reads_back_terse :
    let s : Settings := {
      access := ⟨"secret", false⟩
      families := [.v6]
      domainsV4 := some []
      domainsV6 := some [.wildcard "example.com", .plain "example.com"] }
    ofJson? terse = some s ∧
      ∃ again, ofJson? s.toJson = some again ∧ again = s ∧ again.validate = s.validate :=
  ⟨by rfl, written_reads_back (v := terse) (by rfl)⟩

end Settings

end AddressSync
