import AddressSync.Proofs.Directory.Coherence
import AddressSync.Proofs.Domain.Suffixes
import AddressSync.Proofs.Surroundings.Simulated

/-! Which zone a domain is found to be in, told without the search for it: of the names that end the
domain's name in whole labels, the longest one that any zone in use has decides, and there has to be
one such zone only. -/

namespace AddressSync

open Sync Simulation Directory

namespace Simulation.Provider

def usableZones (p : Provider) (name : String) : List Zone :=
  p.zones.filter fun zone => zone.name = name ∧ zone.status ≠ .deleted

/-- The name is the longest of the domain's that any zone in use has. -/
structure Decides (p : Provider) (domain : Domain) (name : String) : Prop where
  suffix : domain.HasSuffix name
  used : p.usableZones name ≠ []
  longest : ∀ longer, domain.HasSuffix longer → name.length < longer.length →
    p.usableZones longer = []

/-- Which zone the domain is in by all zones there are. -/
inductive Resolves (p : Provider) (domain : Domain) : Except Failure String → Prop
  | unique {name : String} {zone : Zone} (decides : p.Decides domain name)
    (only : p.usableZones name = [zone]) : Resolves p domain (.ok zone.id)
  | ambiguous {name : String} (decides : p.Decides domain name)
    (several : 2 ≤ (p.usableZones name).length) :
    Resolves p domain (.error (.ambiguousZone name (p.usableZones name).length))
  | missing (unused : ∀ name, domain.HasSuffix name → p.usableZones name = []) :
    Resolves p domain (.error (.zoneNotFound domain.print))

/-- The names up to the first one that any zone in use has. -/
def considered (p : Provider) : List String → List String
  | [] => []
  | name :: rest => if p.usableZones name = [] then name :: p.considered rest else [name]

variable {p : Provider} {domain : Domain} {name : String}

theorem usableZones_eq (p : Provider) (name : String) :
    (p.zones.filter (·.name = name)).filter isUsable = p.usableZones name := by
  rw [List.filter_filter, usableZones]
  refine List.filter_congr fun zone _ => ?_
  rw [isUsable, Bool.and_comm, ← Bool.decide_and]

theorem ownerAmong_cons (p : Provider) (domain : Domain) (name : String) (rest : List String) :
    p.ownerAmong domain (name :: rest) =
      match p.usableZones name with
      | [] => p.ownerAmong domain rest
      | [zone] => .ok zone.id
      | many => .error (.ambiguousZone name many.length) := by
  rw [← usableZones_eq]
  rfl

/-- The names are those after some that no zone in use has; what the search among them gives is the
answer by all zones. -/
theorem ownerAmong_resolves (parsed : domain.IsParsed) (passed : List String) {names : List String}
    (split : domain.zoneNames = passed ++ names)
    (unused : ∀ name ∈ passed, p.usableZones name = []) :
    p.Resolves domain (p.ownerAmong domain names) := by
  induction names generalizing passed with
  | nil =>
    refine .missing fun name suffix => unused name ?_
    rw [← List.append_nil passed, ← split]
    exact (Domain.mem_zoneNames_iff parsed.base_ne).mpr suffix
  | cons name rest ih =>
    have decides (used : p.usableZones name ≠ []) : p.Decides domain name := by
      have mem : name ∈ domain.zoneNames := split ▸ by simp
      have suffix_iff {name : String} : name ∈ domain.zoneNames ↔ domain.HasSuffix name :=
        Domain.mem_zoneNames_iff parsed.base_ne
      refine ⟨suffix_iff.mp mem, used, fun longer suffix longest => ?_⟩
      have order := domain.zoneNames_pairwise
      have mem := suffix_iff.mpr suffix
      rw [split] at order mem
      -- A longer name is not `name`, and those after it are shorter.
      rcases List.mem_append.mp mem with before | mem
      · exact unused longer before
      · rcases List.mem_cons.mp mem with rfl | after
        · exact absurd longest (Nat.lt_irrefl _)
        · have shorter := (List.pairwise_cons.mp (List.pairwise_append.mp order).2.1).1 longer after
          exact absurd longest (Nat.lt_asymm shorter)
    rw [ownerAmong_cons]
    rcases found : p.usableZones name with _ | ⟨zone, _ | ⟨other, more⟩⟩
    · refine ih (passed ++ [name]) (by simp [split]) ?_
      exact List.forall_mem_append.mpr ⟨unused, by simpa using found⟩
    · exact .unique (decides (by simp [found])) found
    · have several : 2 ≤ (p.usableZones name).length := by simp [found]
      have ambiguous := Resolves.ambiguous (decides (by simp [found])) several
      rwa [found] at ambiguous

theorem ownerOf_resolves (parsed : domain.IsParsed) : p.Resolves domain (p.ownerOf domain) :=
  ownerAmong_resolves parsed [] rfl (List.forall_mem_nil _)

theorem considered_sublist (p : Provider) (names : List String) :
    (p.considered names).Sublist names := by
  induction names with
  | nil => exact .slnil
  | cons name rest ih =>
    rw [considered]
    split
    · exact ih.cons_cons name
    · exact .cons_cons name (List.nil_sublist rest)

theorem singleton_sublist_considered (p : Provider) (name : String) (rest : List String) :
    [name].Sublist (p.considered (name :: rest)) := by
  rw [considered]
  split
  · exact .cons_cons name (List.nil_sublist _)
  · exact .refl _

theorem le_of_mem_considered {names : List String} {deciding : String}
    (order : names.Pairwise fun a b => b.length < a.length) (decides : p.usableZones deciding ≠ [])
    (among : deciding ∈ names) (mem : name ∈ p.considered names) :
    deciding.length ≤ name.length := by
  induction names with
  | nil => cases among
  | cons first rest ih =>
    obtain ⟨shorter, order⟩ := List.pairwise_cons.mp order
    rcases List.mem_cons.mp among with rfl | later
    · rw [considered, if_neg decides] at mem
      rw [List.mem_singleton.mp mem]
    · rw [considered] at mem
      split at mem
      · rcases List.mem_cons.mp mem with rfl | mem
        · exact Nat.le_of_lt (shorter deciding later)
        · exact ih order later mem
      · rw [List.mem_singleton.mp mem]
        exact Nat.le_of_lt (shorter deciding later)

end Simulation.Provider

def Moment.zonesAsked? : Moment → Option String
  | .called (.listZones name) .. => some name
  | _ => none

/-- No call failed and the reply is as told, or it is the failure of the last call, the first one to
fail. -/
def Concludes (p : Provider) (answer : Except Failure String → Prop) (es : List Moment)
    (reply : Except Failure String) : Prop :=
  (∀ m ∈ es, ¬ m.Fails) ∧ answer reply ∨
    ∃ before name e, es = before ++ [.called (.listZones name) (.error e) p p] ∧
      (∀ m ∈ before, ¬ m.Fails) ∧ reply = .error e

variable {p : Provider} {domain : Domain} {s s' : Scene} {es es' : List Moment}
  {reply : Except Failure String} {answer answer' : Except Failure String → Prop}

theorem Concludes.mono (h : Concludes p answer es reply) (weaken : ∀ r, answer r → answer' r) :
    Concludes p answer' es reply :=
  h.imp_left fun ⟨smooth, told⟩ => ⟨smooth, weaken _ told⟩

theorem Concludes.after (smooth : ∀ m ∈ es, ¬ m.Fails) (h : Concludes p answer es' reply) :
    Concludes p answer (es ++ es') reply := by
  rcases h with ⟨later, told⟩ | ⟨before, name, e, rfl, later, told⟩
  · exact .inl ⟨List.forall_mem_append.mpr ⟨smooth, later⟩, told⟩
  · refine .inr ⟨es ++ before, name, e, (List.append_assoc ..).symm, ?_, told⟩
    exact List.forall_mem_append.mpr ⟨smooth, later⟩

namespace Directory

open Scene

structure AsksZones (name : String) (s : Scene) (es : List Moment)
    (reply : Except Failure (List Zone)) (s' : Scene) : Prop where
  asked : ∃ asked : List String, es.map Moment.zonesAsked? = asked.map some ∧ asked.Sublist [name]
  smooth : reply.isOk → ∀ m ∈ es, ¬ m.Fails
  failed : ∀ e, reply = .error e →
    es = [.called (.listZones name) (.error e) s.provider s.provider]
  owners : s'.caches.owners = s.caches.owners

theorem ensures_zones_asked (name : String) (s : Scene) :
    Sync.Ensures (zones name) s (AsksZones name s) := by
  refine ensures_look_iff.mpr fun t later => ?_
  dsimp only
  cases s.caches.zones.get? t name with
  | some found =>
    refine (silent_log _ _ _).ensures_bind (Program.ensures_pure_iff.mpr ?_)
    exact ⟨⟨[], rfl, List.nil_sublist _⟩, fun _ => List.forall_mem_nil _, nofun, rfl⟩
  | none =>
    refine ensures_call_iff.mpr fun t' reply p later' ends => ?_
    obtain rfl := ends.of_reads rfl
    have asked : [some name] = [name].map some := rfl
    cases reply with
    | error e =>
      refine Program.ensures_pure_iff.mpr ⟨⟨[name], asked, .refl _⟩, nofun, fun e same => ?_, rfl⟩
      cases same
      rfl
    | ok reply =>
      refine ensures_revise_iff.mpr fun _ _ => Program.ensures_pure_iff.mpr
        ⟨⟨[name], asked, .refl _⟩, fun _ => ?_, nofun, rfl⟩
      exact List.forall_mem_singleton.mpr nofun

structure Searches (domain : Domain) (names : List String) (s : Scene) (es : List Moment)
    (reply : Except Failure String) (s' : Scene) : Prop where
  asked : ∃ asked : List String, es.map Moment.zonesAsked? = asked.map some ∧
    asked.Sublist (s.provider.considered names)
  concludes : Concludes s.provider (s.provider.ownerAmong domain names = ·) es reply
  forgotten : ∀ e, reply = .error e → s'.caches.owners = s.caches.owners

theorem ensures_ownerAmong_searches (h : s.ZonesTrue domain) (names : List String)
    (within : ∀ name ∈ names, name ∈ domain.zoneNames) :
    Sync.Ensures (ownerAmong domain names) s (Searches domain names s) := by
  induction names generalizing s with
  | nil =>
    refine Program.ensures_pure_iff.mpr ⟨⟨[], rfl, .slnil⟩, .inl ⟨?_, rfl⟩, fun _ _ => rfl⟩
    exact List.forall_mem_nil _
  | cons name rest ih =>
    obtain ⟨here, inside⟩ := List.forall_mem_cons.mp within
    have zones := ensures_zones name
      fun t zones later found => (h.zones.later later).get? found here
    refine (zones.and (ensures_zones_asked name s)).bind fun es reply s' ⟨reads, asks⟩ => ?_
    obtain ⟨asked, names, among⟩ := asks.asked
    cases reply with
    | error e =>
      refine Program.ensures_pure_iff.mpr ?_
      rw [List.append_nil]
      refine ⟨⟨asked, names, among.trans (s.provider.singleton_sublist_considered name rest)⟩, ?_,
        fun _ _ => asks.owners⟩
      exact .inr ⟨[], name, e, asks.failed e rfl, List.forall_mem_nil _, rfl⟩
    | ok found =>
      have smooth := asks.smooth rfl
      obtain rfl : s.provider.zones.filter (·.name = name) = found :=
        Except.ok.inj (reads.true_of_ok found rfl)
      refine (silent_forM (silent_remark name) _).ensures_bind ?_
      have within : asked.Sublist (s.provider.considered (name :: rest)) :=
        among.trans (s.provider.singleton_sublist_considered name rest)
      have told := s.provider.ownerAmong_cons domain name rest
      rw [Provider.usableZones_eq]
      rcases usable : s.provider.usableZones name with _ | ⟨zone, _ | ⟨other, more⟩⟩
      · rw [usable] at told
        have considers : s.provider.considered (name :: rest) =
            [name] ++ s.provider.considered rest := if_pos usable
        have same := reads.quiet.provider
        refine (ih (reads.kept.zonesTrue same h) inside).mono fun es' reply s'' later => ?_
        obtain ⟨⟨asked', names', among'⟩, concludes, forgotten⟩ := later
        rw [same] at among' concludes
        refine ⟨⟨asked ++ asked', ?_, ?_⟩, ?_,
          fun e failed => (forgotten e failed).trans asks.owners⟩
        · rw [List.map_append, names, names', List.map_append]
        · rw [considers]
          exact among.append among'
        · rw [told]
          exact concludes.after smooth
      · rw [usable] at told
        refine ensures_log_iff.mpr (ensures_revise_iff.mpr fun t later => ?_)
        refine Program.ensures_pure_iff.mpr ?_
        rw [List.append_nil]
        exact ⟨⟨asked, names, within⟩, .inl ⟨smooth, told⟩, nofun⟩
      · rw [usable] at told
        refine Program.ensures_pure_iff.mpr ?_
        rw [List.append_nil]
        exact ⟨⟨asked, names, within⟩, .inl ⟨smooth, told⟩, fun _ _ => asks.owners⟩

theorem ensures_owner_searches (h : s.ZonesCoherent) :
    Sync.Ensures (owner domain) s fun es reply s' =>
      Searches domain domain.zoneNames s es reply s' ∧
        ∀ e, reply = .error e → ∀ t, s'.now ≤ t → s'.caches.owners.get? t domain = none := by
  have true := h.zonesTrue domain
  refine ensures_look_iff.mpr fun t later => ?_
  have passed : ZonesTrue domain { s with now := t } := true.frame later rfl ⟨rfl, rfl⟩
  dsimp only
  cases found : s.caches.owners.get? t domain with
  | some zone =>
    refine ensures_log_iff.mpr (Program.ensures_pure_iff.mpr ⟨⟨?_, .inl ?_, nofun⟩, nofun⟩)
    · exact ⟨[], rfl, List.nil_sublist _⟩
    · exact ⟨List.forall_mem_nil _, passed.owners.get? found rfl⟩
  | none =>
    have searches := ensures_ownerAmong_searches passed domain.zoneNames fun _ => id
    refine (searches.and Program.ensures_runs).mono fun es reply s' ⟨searched, run⟩ => ?_
    refine ⟨⟨searched.asked, searched.concludes, searched.forgotten⟩, fun e failed t' later' => ?_⟩
    rw [searched.forgotten e failed]
    exact Cache.get?_eq_none_of_later found (Nat.le_trans (Sync.Runs.later run) later')

/-- Where no call fails, the zone of a domain is the one by all zones there are; else the first call
that fails is the last one, and its failure the reply. The zones asked for are those of the domain's
own ends, longest first, none of them shorter than the one that decides or with a star; and nothing
is remembered of a search that failed. -/
theorem owner_resolves (h : s.ZonesCoherent) (parsed : domain.IsParsed)
    (run : Sync.Runs (owner domain) s es reply s') :
    Concludes s.provider (s.provider.Resolves domain) es reply ∧
    (∃ names : List String, es.map Moment.zonesAsked? = names.map some ∧
      names.Pairwise (fun a b => b.length < a.length) ∧
      ∀ name ∈ names, domain.HasSuffix name ∧ '*' ∉ name.toList ∧
        ∀ deciding, s.provider.Decides domain deciding → deciding.length ≤ name.length) ∧
    ∀ e, reply = .error e → ∀ t, s'.now ≤ t → s'.caches.owners.get? t domain = none := by
  obtain ⟨⟨⟨names, asked, among⟩, concludes, _⟩, forgotten⟩ := ensures_owner_searches h _ _ _ run
  have suffix_iff {name : String} : name ∈ domain.zoneNames ↔ domain.HasSuffix name :=
    Domain.mem_zoneNames_iff parsed.base_ne
  refine ⟨concludes.mono fun r told => ?_, ⟨names, asked, ?_, fun name mem => ?_⟩, forgotten⟩
  · exact told ▸ Provider.ownerOf_resolves parsed
  · exact domain.zoneNames_pairwise.sublist
      (among.trans (s.provider.considered_sublist domain.zoneNames))
  · have considered := among.subset mem
    have suffix : domain.HasSuffix name :=
      suffix_iff.mp ((s.provider.considered_sublist domain.zoneNames).subset considered)
    refine ⟨suffix, parsed.star_not_mem suffix, fun deciding decides => ?_⟩
    exact Provider.le_of_mem_considered domain.zoneNames_pairwise decides.used
      (suffix_iff.mpr decides.suffix) considered

def layered : World where
  provider.zones := [⟨"z1", "a.example.com", .deleted⟩, ⟨"z2", "example.com", .deleted⟩,
    ⟨"z3", "example.com", .pending⟩, ⟨"z4", "com", .active⟩]
  caches := .empty 60000

theorem owner_resolves_layered : ∃ es s' names,
    Sync.Runs (owner (.wildcard "a.example.com")) layered.scene es (.ok "z3") s' ∧
      layered.provider.Resolves (.wildcard "a.example.com") (.ok "z3") ∧
      es.map Moment.zonesAsked? = names.map some ∧ names = ["a.example.com", "example.com"] ∧
      names.Pairwise (fun a b => b.length < a.length) ∧ ∀ name ∈ names, '*' ∉ name.toList := by
  have parsed : (Domain.wildcard "a.example.com").IsParsed := ⟨"*.A.example.com.", by rfl⟩
  have run := World.runs_trace (owner (.wildcard "a.example.com")) (w := layered) rfl
  have found : (layered.run (owner (.wildcard "a.example.com"))).1 = .ok "z3" := by decide
  rw [found] at run
  have coherent : layered.scene.Coherent := Scene.coherentOn_empty
  obtain ⟨concludes, ⟨names, asked, order, each⟩, _⟩ :=
    owner_resolves (Scene.CoherentOn.toZonesCoherent coherent) parsed run
  refine ⟨_, _, names, run, ?_, asked, ?_, order, fun name mem => (each name mem).2.1⟩
  · rcases concludes with ⟨_, resolves⟩ | ⟨_, _, _, _, _, failed⟩
    · exact resolves
    · cases failed
  · refine List.map_injective_iff.mpr (Option.some_injective String) (asked.symm.trans ?_)
    rfl

end Directory

end AddressSync
