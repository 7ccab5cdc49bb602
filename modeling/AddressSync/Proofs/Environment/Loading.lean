import AddressSync.Environment
import AddressSync.Proofs.Domain.Order
import AddressSync.Proofs.Settings.Validation
import AddressSync.Proofs.Text.Blank
import Mathlib.Data.List.Forall2

/-! The configuration that the variables of an environment give is consistent: what is said of a
family in one of them fits what is made of it in every other place. -/

namespace AddressSync.Environment

open Text

open List (Forall₂)

variable {v v' : Variables} {plan : Plan} {family : Family} {name value entry : String} {d : Domain}
  {α β ε : Type}

section Entries

/-- The entries of a value that is written in parts with commas between them are what is left of the
parts without the blanks around them, in their order; a part of nothing but blanks is no entry. -/
theorem entries_intercalate {parts : List String} (some : parts ≠ [])
    (apart : ∀ part ∈ parts, ',' ∉ part.toList) :
    entries (.some (",".intercalate parts)) = (parts.map trim).filter (· ≠ "") := by
  have split : pieces ',' (",".intercalate parts).toList = parts.map String.toList := by
    rw [String.toList_intercalate]
    refine pieces_intercalate (fun cs mem => ?_) (by simpa using some)
    obtain ⟨part, among, rfl⟩ := List.mem_map.mp mem
    exact apart part among
  rw [entries, Option.getD_some, split, List.map_map, List.filter_map, List.map_map, List.filter_map]
  refine congrArg _ (List.filter_congr fun part _ => decide_eq_decide.mpr (not_congr ?_))
  rw [Function.comp_apply, trim, ← String.toList_inj, String.toList_ofList]
  rfl

/-- Every value is written in such parts. -/
theorem exists_parts (value : String) :
    ∃ parts : List String, ",".intercalate parts = value ∧ (∀ part ∈ parts, ',' ∉ part.toList) ∧
      entries (some value) = (parts.map trim).filter (· ≠ "") := by
  have some : (pieces ',' value.toList).map String.ofList ≠ [] := by
    rw [pieces_eq_splitOn, Ne, List.map_eq_nil_iff]
    exact List.splitOn_ne_nil ',' _
  have apart : ∀ part ∈ (pieces ',' value.toList).map String.ofList, ',' ∉ part.toList := by
    intro part mem
    obtain ⟨piece, among, rfl⟩ := List.mem_map.mp mem
    rw [String.toList_ofList]
    exact not_mem_of_mem_pieces among
  have joined : ",".intercalate ((pieces ',' value.toList).map String.ofList) = value := by
    refine String.toList_inj.mp ?_
    rw [String.toList_intercalate, List.map_map]
    simp [Function.comp_def, pieces_eq_splitOn]
  have read := entries_intercalate some apart
  rw [joined] at read
  exact ⟨_, joined, apart, read⟩

end Entries

/-- What is said of the endpoint of a family, without blanks around it; nothing if the variable is
not set. -/
def said (v : Variables) (family : Family) : String := trim ((v (endpointVariable family)).getD "")

/-- The plan is what the variables say, and fits together. -/
structure Consistent (v : Variables) (plan : Plan) : Prop where
  families : plan.settings.families = Family.all.filter fun f => said v f ≠ "none"
  sorted : ∀ f, (plan.settings.domains f).Pairwise fun a b => a.before b = true
  domains : ∀ f ∈ plan.settings.families, ∀ d, d ∈ plan.settings.domains f ↔
    ∃ name ∈ ["CFSYNC_DOMAINS", ownDomainsVariable f], ∃ entry ∈ entries (v name),
      Domain.parse entry = .ok d
  read : ∀ name ∈ ["CFSYNC_DOMAINS", ownDomainsVariable .v4, ownDomainsVariable .v6],
    ∀ entry ∈ entries (v name), ∃ d, Domain.parse entry = .ok d
  absent : ∀ f ∉ plan.settings.families, plan.settings.given? f = none
  asked : ∀ f, (plan.source.url? f).isSome ↔ f ∈ plan.settings.families
  url : ∀ f ∈ plan.settings.families, plan.source.url? f =
    some (if said v f = "" ∨ said v f = "cloudflare.trace" then f.builtInUrl else said v f)
  lists : Forall₂ (fun entry l => entry = l.account ++ "/" ++ l.name ∧ '/' ∉ l.account.toList)
    (entries (v "CFSYNC_WAF_LISTS")) plan.settings.lists
  valid : ∀ f, plan.settings.validate ≠ .error (.disabledFamily f)

section Results

theorem exists_of_bind_eq_ok {x : Except ε α} {f : α → Except ε β} {b : β}
    (done : (x >>= f) = .ok b) : ∃ a, x = .ok a ∧ f a = .ok b := by
  cases x with
  | error e => cases done
  | ok a => exact ⟨a, rfl, done⟩

theorem mapM_eq_ok_iff {f : α → Except ε β} {as : List α} {bs : List β} :
    as.mapM f = .ok bs ↔ Forall₂ (fun a b => f a = .ok b) as bs := by
  induction as generalizing bs with
  | nil =>
    rw [List.forall₂_nil_left_iff]
    exact ⟨fun done => (Except.ok.inj done).symm, fun none => congrArg Except.ok none.symm⟩
  | cons a as ih =>
    rw [List.mapM_cons, List.forall₂_cons_left_iff]
    constructor
    · intro done
      obtain ⟨b, first, done⟩ := exists_of_bind_eq_ok done
      obtain ⟨bs, later, done⟩ := exists_of_bind_eq_ok done
      exact ⟨b, bs, first, ih.mp later, (Except.ok.inj done).symm⟩
    · rintro ⟨b, bs, first, later, rfl⟩
      rw [first, ih.mpr later]
      rfl

theorem exists_mem_of_forall₂ {R : α → β → Prop} {as : List α} {bs : List β} {a : α}
    (each : Forall₂ R as bs) (mem : a ∈ as) : ∃ b ∈ bs, R a b := by
  induction each with
  | nil => cases mem
  | cons first _ ih =>
    rcases List.mem_cons.mp mem with rfl | later
    · exact ⟨_, List.mem_cons_self, first⟩
    · obtain ⟨b, among, related⟩ := ih later
      exact ⟨b, List.mem_cons_of_mem _ among, related⟩

theorem mapError_eq_ok_iff {ε' : Type} {g : ε → ε'} {x : Except ε α} {a : α} :
    x.mapError g = .ok a ↔ x = .ok a := by
  cases x <;> simp [Except.mapError]

end Results

section Blank

theorem get?_eq (v : Variables) (name : String) :
    v.get? name = if trim ((v name).getD "") = "" then none else v name := by
  rw [Variables.get?]
  cases v name with
  | none => rfl
  | some value =>
    rw [Option.getD_some, Option.filter_some]
    simp only [trim_eq_empty_iff, Bool.not_eq_true', ← Bool.not_eq_true, ite_not]

theorem entries_of_blank (blank : value.toList.all isBlank = true) : entries (some value) = [] := by
  have single : ∀ part ∈ [value], ',' ∉ part.toList :=
    List.forall_mem_singleton.mpr fun mem => absurd (List.all_eq_true.mp blank ',' mem) (by decide)
  have read := entries_intercalate (List.cons_ne_nil value []) single
  rw [String.intercalate_singleton] at read
  rw [read, List.map_singleton, trim_eq_empty_iff.mpr blank]
  rfl

theorem entries_get? (v : Variables) (name : String) : entries (v.get? name) = entries (v name) := by
  rw [get?_eq]
  split
  · next blank =>
    cases set : v name with
    | none => rfl
    | some value =>
      rw [set, Option.getD_some, trim_eq_empty_iff] at blank
      rw [entries_of_blank blank]
      rfl
  · rfl

end Blank

section Endpoints

theorem endpoint_eq (v : Variables) (family : Family) :
    endpoint v family =
      if said v family = "" ∨ said v family = "cloudflare.trace" then .ok .builtIn
      else if said v family = "none" then .ok .disabled
      else if isUrl (said v family) then .ok (.custom (said v family))
      else .error (.endpoint (endpointVariable family) (said v family)) := by
  rw [endpoint, get?_eq, said]
  cases v (endpointVariable family) with
  | none => rfl
  | some value =>
    rw [Option.getD_some]
    by_cases blank : trim value = ""
    · simp [blank]
    · simp [blank]

theorem endpoint_eq_disabled_iff {e : Endpoint} (chosen : endpoint v family = .ok e) :
    e = .disabled ↔ said v family = "none" := by
  rw [endpoint_eq] at chosen
  split_ifs at chosen with builtIn none url
  · cases chosen
    rcases builtIn with same | same <;> simp [same]
  · cases chosen
    simp [none]
  · cases chosen
    simp [none]

theorem url?_eq_of_endpoint {e : Endpoint} (chosen : endpoint v family = .ok e) :
    e.url? family = if said v family = "none" then none
      else some (if said v family = "" ∨ said v family = "cloudflare.trace" then family.builtInUrl
        else said v family) := by
  rw [endpoint_eq] at chosen
  split_ifs at chosen with builtIn none url
  · cases chosen
    rw [if_pos builtIn, if_neg (by rcases builtIn with same | same <;> simp [same])]
    rfl
  · cases chosen
    rw [if_pos none]
    rfl
  · cases chosen
    rw [if_neg none, if_neg builtIn]
    rfl

end Endpoints

section Domains

variable {shared own : List Domain} {enabled : Bool} {given : Option (List Domain)}

theorem domainsIn_eq_ok_iff : domainsIn v name = .ok own ↔
    Forall₂ (fun entry d => Domain.parse entry = .ok d) (entries (v name)) own := by
  simp only [domainsIn, mapM_eq_ok_iff, mapError_eq_ok_iff, entries_get?]

theorem mem_of_domainsIn (read : domainsIn v name = .ok own) :
    d ∈ own ↔ ∃ entry ∈ entries (v name), Domain.parse entry = .ok d := by
  have each := domainsIn_eq_ok_iff.mp read
  constructor
  · intro mem
    exact exists_mem_of_forall₂ each.flip mem
  · rintro ⟨entry, among, parsed⟩
    obtain ⟨d', mem, parsed'⟩ := exists_mem_of_forall₂ each among
    rw [parsed] at parsed'
    exact Except.ok.inj parsed' ▸ mem

theorem exists_parse_of_domainsIn (read : domainsIn v name = .ok own)
    (mem : entry ∈ entries (v name)) : ∃ d, Domain.parse entry = .ok d :=
  let ⟨d, _, parsed⟩ := exists_mem_of_forall₂ (domainsIn_eq_ok_iff.mp read) mem
  ⟨d, parsed⟩

theorem exists_of_domains (done : domains v shared enabled family = .ok given) :
    ∃ own, domainsIn v (ownDomainsVariable family) = .ok own ∧
      (enabled = false → own = [] ∧ given = none) ∧
      given.getD [] = if enabled then Domain.dropRepeats (Domain.sort (own ++ shared)) else [] := by
  obtain ⟨own, read, done⟩ := exists_of_bind_eq_ok done
  refine ⟨own, read, ?_⟩
  cases enabled with
  | false =>
    cases own with
    | nil => cases done; exact ⟨fun _ => ⟨rfl, rfl⟩, rfl⟩
    | cons => cases done
  | true =>
    refine ⟨nofun, ?_⟩
    cases done
    rw [if_pos rfl]
    split
    · next none =>
      rw [if_pos rfl, List.isEmpty_iff.mp none]
      simp [Domain.sort, Domain.dropRepeats]
    · rfl

end Domains

section Lists

theorem forall₂_of_lists {ls : List ListTarget} (done : lists v = .ok ls) :
    Forall₂ (fun entry l => entry = l.account ++ "/" ++ l.name ∧ '/' ∉ l.account.toList)
      (entries (v "CFSYNC_WAF_LISTS")) ls := by
  rw [lists, mapM_eq_ok_iff, entries_get?] at done
  refine done.imp fun entry l read => ?_
  rw [listOf] at read
  split at read
  · next found =>
    cases read
    obtain ⟨split, absent⟩ := eq_append_of_cut? found
    refine ⟨String.toList_inj.mp ?_, by rwa [String.toList_ofList]⟩
    simpa using split
  · cases read

end Lists

section Load

theorem exists_of_load (done : load v = .ok plan) : ∃ shared,
    domainsIn v "CFSYNC_DOMAINS" = .ok shared ∧
    (∀ f, endpoint v f = .ok (plan.endpoint f) ∧
      domains v shared (plan.endpoint f ≠ .disabled) f = .ok (plan.settings.given? f)) ∧
    plan.settings.families = Family.all.filter (fun f => plan.endpoint f ≠ .disabled) ∧
    lists v = .ok plan.settings.lists := by
  obtain ⟨access, -, done⟩ := exists_of_bind_eq_ok done
  obtain ⟨endpointV4, chosenV4, done⟩ := exists_of_bind_eq_ok done
  obtain ⟨endpointV6, chosenV6, done⟩ := exists_of_bind_eq_ok done
  obtain ⟨shared, readShared, done⟩ := exists_of_bind_eq_ok done
  obtain ⟨domainsV4, readV4, done⟩ := exists_of_bind_eq_ok done
  obtain ⟨domainsV6, readV6, done⟩ := exists_of_bind_eq_ok done
  obtain ⟨lists, readLists, done⟩ := exists_of_bind_eq_ok done
  obtain ⟨attributes, -, done⟩ := exists_of_bind_eq_ok done
  obtain ⟨timing, -, done⟩ := exists_of_bind_eq_ok done
  obtain ⟨cacheLifetime, -, done⟩ := exists_of_bind_eq_ok done
  obtain ⟨verifyToken, -, done⟩ := exists_of_bind_eq_ok done
  obtain ⟨logLevel, -, done⟩ := exists_of_bind_eq_ok done
  cases done
  refine ⟨shared, readShared, fun f => ?_, ?_, readLists⟩
  · cases f with
    | v4 => exact ⟨chosenV4, readV4⟩
    | v6 => exact ⟨chosenV6, readV6⟩
  · by_cases offV4 : endpointV4 = .disabled <;> by_cases offV6 : endpointV6 = .disabled <;>
      simp [Family.all, Plan.endpoint, offV4, offV6]

theorem mem_families (done : load v = .ok plan) :
    family ∈ plan.settings.families ↔ plan.endpoint family ≠ .disabled := by
  obtain ⟨shared, -, -, families, -⟩ := exists_of_load done
  rw [families, List.mem_filter, decide_eq_true_eq]
  exact and_iff_right (by cases family <;> decide)

theorem url?_source (p : Plan) (f : Family) : p.source.url? f = (p.endpoint f).url? f := by
  cases f <;> rfl

theorem consistent_of_load (done : load v = .ok plan) : Consistent v plan := by
  obtain ⟨shared, readShared, each, families, readLists⟩ := exists_of_load done
  have off : ∀ f, plan.endpoint f = .disabled ↔ said v f = "none" := fun f =>
    endpoint_eq_disabled_iff (each f).1
  have enabled : ∀ f ∈ plan.settings.families, decide (plan.endpoint f ≠ .disabled) = true :=
    fun f mem => decide_eq_true ((mem_families done).mp mem)
  have disabled : ∀ f ∉ plan.settings.families, decide (plan.endpoint f ≠ .disabled) = false :=
    fun f out => decide_eq_false fun on => out ((mem_families done).mpr on)
  have absent : ∀ f ∉ plan.settings.families, plan.settings.given? f = none := by
    intro f out
    obtain ⟨own, -, none, -⟩ := exists_of_domains (each f).2
    exact (none (disabled f out)).2
  exact {
    families := by
      rw [families]
      exact List.filter_congr fun f _ => by rw [decide_eq_decide, Ne, off f]
    sorted := fun f => by
      obtain ⟨own, -, -, all⟩ := exists_of_domains (each f).2
      rw [Settings.domains, all]
      split
      · exact Domain.pairwise_dropRepeats (Domain.pairwise_sort _)
      · exact .nil
    domains := fun f mem d => by
      obtain ⟨own, readOwn, -, all⟩ := exists_of_domains (each f).2
      rw [Settings.domains, all, if_pos (enabled f mem), Domain.mem_dropRepeats, Domain.mem_sort,
        List.mem_append, mem_of_domainsIn readOwn, mem_of_domainsIn readShared, or_comm]
      simp
    read := fun name mem entry among => by
      have own : ∀ f, ∃ own, domainsIn v (ownDomainsVariable f) = .ok own := fun f =>
        let ⟨own, read, _⟩ := exists_of_domains (each f).2
        ⟨own, read⟩
      obtain ⟨ds, read⟩ : ∃ ds, domainsIn v name = .ok ds := by
        simp only [List.mem_cons, List.not_mem_nil, or_false] at mem
        rcases mem with rfl | rfl | rfl
        · exact ⟨shared, readShared⟩
        · exact own .v4
        · exact own .v6
      exact exists_parse_of_domainsIn read among
    absent
    asked := fun f => by
      rw [url?_source, mem_families done]
      cases plan.endpoint f <;> simp [Endpoint.url?]
    url := fun f mem => by
      have on : said v f ≠ "none" := (off f).not.mp ((mem_families done).mp mem)
      rw [url?_source, url?_eq_of_endpoint (each f).1, if_neg on]
    lists := forall₂_of_lists readLists
    valid := fun f refused => by
      have orphan := Settings.mem_orphans_of_validate refused
      rw [Settings.orphans, List.mem_filter] at orphan
      by_cases mem : f ∈ plan.settings.families
      · simp [mem] at orphan
      · simp [Settings.domains, absent f mem] at orphan }

theorem load_of_disabled_own (off : said v family = "none")
    (some : entries (v (ownDomainsVariable family)) ≠ []) : ∃ refusal, load v = .error refusal := by
  cases done : load v with
  | error refusal => exact ⟨refusal, rfl⟩
  | ok plan =>
    obtain ⟨shared, -, each, -⟩ := exists_of_load done
    obtain ⟨own, read, none, -⟩ := exists_of_domains (each family).2
    have disabled := (endpoint_eq_disabled_iff (each family).1).mpr off
    have empty := (none (decide_eq_false (not_not.mpr disabled))).1
    rw [domainsIn_eq_ok_iff, empty, List.forall₂_nil_right_iff] at read
    exact absurd read some

end Load

section Unset

/-- Variables are only read for what they are set to. -/
theorem load_congr (same : ∀ name, v.get? name = v'.get? name) : load v = load v' := by
  simp only [load, access, token, endpoint, domains, domainsIn, lists, attributes, timing, uint32,
    uint64, number, switch, logLevel, same]

theorem get?_update_blank (unset : v name = none) (blank : value.toList.all isBlank = true)
    (other : String) :
    Variables.get? (Function.update v name (some value)) other = v.get? other := by
  rw [get?_eq, get?_eq]
  by_cases here : other = name
  · rw [here, Function.update_self, Option.getD_some, if_pos (trim_eq_empty_iff.mpr blank), unset]
    exact (ite_self none).symm
  · rw [Function.update_of_ne here]

end Unset

/-- The configuration that the variables of an environment give is consistent, a domain for a family
that is turned off is refused, and white space in a variable that was not set changes nothing. -/
theorem load_exact (v : Variables) :
    (∀ plan, load v = .ok plan → Consistent v plan) ∧
    (∀ f, said v f = "none" → entries (v (ownDomainsVariable f)) ≠ [] →
      ∃ refusal, load v = .error refusal) ∧
    ∀ name value, v name = none → value.toList.all isBlank = true →
      load (Function.update v name (some value)) = load v :=
  ⟨fun _ => consistent_of_load, fun _ => load_of_disabled_own,
    fun _ _ unset blank => load_congr (get?_update_blank unset blank)⟩

def oneFamily : Variables := fun name =>
  [("CFSYNC_API_TOKEN", "0123456789abcdefghij"), ("CFSYNC_IP6_PROVIDER", " none "),
    ("CFSYNC_DOMAINS", "b.example.org, a.example.org,"), ("CFSYNC_WAF_LISTS", "acc/home")].lookup name

theorem load_exact_oneFamily : ∃ plan, load oneFamily = .ok plan ∧
    plan.settings.families = [.v4] ∧ .plain "a.example.org" ∈ plan.settings.domains .v4 ∧
    plan.settings.given? .v6 = none ∧
    (∃ refusal, load (Function.update oneFamily "CFSYNC_IP6_DOMAINS" (some "a.example.org")) =
      .error refusal) ∧
    load (Function.update oneFamily "CFSYNC_IP6_DOMAINS" (some " \t")) = .ok plan := by
  obtain ⟨consistent, -, blank⟩ := load_exact oneFamily
  obtain ⟨-, refused, -⟩ :=
    load_exact (Function.update oneFamily "CFSYNC_IP6_DOMAINS" (some "a.example.org"))
  have done : (load oneFamily).isOk = true := by decide
  cases loaded : load oneFamily with
  | error refusal =>
    rw [loaded] at done
    cases done
  | ok plan =>
    have fits := consistent plan loaded
    have families : plan.settings.families = [.v4] := fits.families.trans (by decide)
    refine ⟨plan, rfl, families, ?_, ?_, refused .v6 ?_ ?_, ?_⟩
    · exact (fits.domains .v4 (by simp [families]) _).mpr
        ⟨"CFSYNC_DOMAINS", by decide, "a.example.org", by decide, by decide⟩
    · exact fits.absent .v6 (by simp [families])
    · decide
    · decide
    · exact (blank "CFSYNC_IP6_DOMAINS" " \t" (by decide) (by decide)).trans loaded

end AddressSync.Environment
