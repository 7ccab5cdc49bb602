import AddressSync.Proofs.Reconcile.Order
import AddressSync.Proofs.Reconcile.Requests
import AddressSync.Proofs.Reconcile.Sequence

/-! What is cached while no time passes. Once a place was located, its owner and its records are
cached, and they stay so through all changes that succeed; whoever then locates the place again need
not ask the provider. -/

namespace AddressSync

open Sync Simulation Directory Scene

namespace Sync

variable {α β : Type} {s : Scene} {post : List Moment → β → Scene → Prop}

theorem ensures_look_still {f : Nat × Caches → Sync β} (h : Ensures (f (s.now, s.caches)) s post) :
    Ensures (look >>= f) s fun es b s' => s'.now = s.now → post es b s' := by
  refine ensures_look_iff.mpr fun t later es b s' run still => ?_
  have after : t ≤ s'.now := Runs.later run
  obtain rfl : t = s.now := by omega
  exact h es b s' run

theorem ensures_bind_still {p : Sync α} {f : α → Sync β} {middle : List Moment → α → Scene → Prop}
    (first : Ensures p s fun es a s' => s'.now = s.now → middle es a s')
    (rest : ∀ es a s', s'.now = s.now → middle es a s' →
      Ensures (f a) s' fun es' b s'' => s''.now = s'.now → post (es ++ es') b s'') :
    Ensures (p >>= f) s fun es b s'' => s''.now = s.now → post es b s'' := by
  intro es b s'' run still
  obtain ⟨es₁, es₂, a, s', rfl, before, after⟩ := Program.runs_bind_iff.mp run
  have later : s.now ≤ s'.now := Runs.later before
  have later' : s'.now ≤ s''.now := Runs.later after
  have here : s'.now = s.now := by omega
  have there : s''.now = s'.now := by omega
  exact rest es₁ a s' here (first es₁ a s' before here) es₂ b s'' after there

end Sync

namespace Scene

structure Warm (key : RecordsKey) (s : Scene) : Prop where
  owner : (s.caches.owners.get? s.now key.domain).isSome
  records : (s.caches.records.get? s.now key).isSome

structure Lasts (s : Scene) : Prop where
  owners : 0 < s.caches.owners.lifetime
  records : 0 < s.caches.records.lifetime

variable {s s' s'' : Scene} {es es' : List Moment} {key : RecordsKey} {c : Call}

theorem Lasts.of_same (lasts : s.Lasts) (same : s'.caches.lifetimes = s.caches.lifetimes) :
    s'.Lasts := by
  simp only [Caches.lifetimes, List.cons.injEq] at same
  obtain ⟨_, owners, records, _⟩ := same
  constructor
  · rw [owners]
    exact lasts.owners
  · rw [records]
    exact lasts.records

theorem lasts_empty {now lifetime : Nat} {p : Provider} (positive : 0 < lifetime) :
    Lasts ⟨now, p, .empty lifetime⟩ :=
  ⟨positive, positive⟩

/-- What is cached of the place at the start is at the end, unless time passed or a call failed. -/
structure KeepsWarm (key : RecordsKey) (s : Scene) (es : List Moment) (s' : Scene) : Prop where
  later : s.now ≤ s'.now
  warm : s'.now = s.now → (∀ m ∈ es, ¬ m.Fails) → s.Warm key → s'.Warm key

theorem KeepsWarm.append (first : s.KeepsWarm key es s') (rest : s'.KeepsWarm key es' s'') :
    s.KeepsWarm key (es ++ es') s'' := by
  refine ⟨Nat.le_trans first.later rest.later, fun still unfailed warm => ?_⟩
  obtain ⟨before, after⟩ := List.forall_mem_append.mp unfailed
  have later := first.later
  have later' := rest.later
  have here : s'.now = s.now := by omega
  exact rest.warm (still.trans here.symm) after (first.warm here before warm)

theorem sequential_keepsWarm : Sequential (KeepsWarm key) where
  nil _ := ⟨Nat.le_refl _, fun _ _ warm => warm⟩
  asked _ _ := ⟨Nat.le_refl _, fun _ _ warm => warm⟩
  append := KeepsWarm.append

theorem Change.keepsWarm {change : c.Reply → List Record → List Record}
    {reply : Except Failure c.Reply}
    (changed : s.Change c (fun x => patchRecords key (change x)) (dropRecords key) es reply s') :
    s.KeepsWarm key es s' := by
  refine ⟨changed.later, fun still unfailed warm => ?_⟩
  have caches := changed.caches
  cases reply with
  | error e =>
    obtain ⟨m, mem, fails⟩ := changed.failed
    exact absurd fails (unfailed m mem)
  | ok x =>
    constructor
    · rw [caches, still]
      exact warm.owner
    · rw [caches]
      dsimp only [patchRecords]
      rw [Cache.get?_modify (Nat.le_refl _), Option.isSome_map, still]
      exact warm.records

end Scene

namespace Directory

variable {s : Scene} {domain : Domain} {zone : String} {family : Family}

theorem ensures_zones_lifetimes (name : String) (s : Scene) :
    Sync.Ensures (zones name) s fun _ _ s' => s'.caches.lifetimes = s.caches.lifetimes := by
  refine OnlyAsks.ensures_lifetimes (Q := fun _ => True) ?_ s
  exact onlyAsks_fetch (usual_calls _) (silent_log _ _ _) trivial trivial (stamping_storeZones name)

theorem ensures_owner_warm (lasts : s.Lasts) (domain : Domain) :
    Sync.Ensures (owner domain) s fun _ reply s' =>
      reply.isOk → (s'.caches.owners.get? s'.now domain).isSome ∧ s'.Lasts := by
  have refused {e : Failure} (s : Scene) :
      Sync.Ensures (pure (.error e) : Sync (Except Failure String)) s fun _ reply s' =>
        reply.isOk → (s'.caches.owners.get? s'.now domain).isSome ∧ s'.Lasts :=
    Program.ensures_pure_iff.mpr fun ok => absurd ok Bool.false_ne_true
  have among (names : List String) (s : Scene) (lasts : s.Lasts) :
      Sync.Ensures (ownerAmong domain names) s fun _ reply s' =>
        reply.isOk → (s'.caches.owners.get? s'.now domain).isSome ∧ s'.Lasts := by
    induction names generalizing s with
    | nil => exact refused _
    | cons name rest ih =>
      refine (ensures_zones_lifetimes name s).bind fun es reply s' same => ?_
      have lasts' : s'.Lasts := lasts.of_same same
      cases reply with
      | error e => exact refused _
      | ok found =>
        refine (silent_forM (silent_remark name) found).ensures_bind ?_
        split
        · exact ih s' lasts'
        · refine ensures_log_iff.mpr (ensures_revise_iff.mpr fun t later => ?_)
          refine Program.ensures_pure_iff.mpr fun _ => ⟨?_, lasts'.of_same rfl⟩
          rw [Cache.get?_set, if_pos (Nat.lt_add_of_pos_right lasts'.owners)]
          rfl
        · exact refused _
  refine ensures_look_iff.mpr fun t later => ?_
  dsimp only
  cases found : s.caches.owners.get? t domain with
  | some zone =>
    refine ensures_log_iff.mpr (Program.ensures_pure_iff.mpr fun _ => ⟨?_, lasts.of_same rfl⟩)
    rw [found]
    rfl
  | none => exact among domain.zoneNames _ (lasts.of_same rfl)

theorem ensures_records_warm (lasts : s.Lasts) (zone : String) (domain : Domain) (family : Family) :
    Sync.Ensures (records zone domain family) s fun _ reply s' =>
      reply.isOk → (s'.caches.records.get? s'.now ⟨zone, domain, family⟩).isSome ∧
        s'.caches.owners = s.caches.owners := by
  refine ensures_look_iff.mpr fun t later => ?_
  dsimp only
  cases found : s.caches.records.get? t ⟨zone, domain, family⟩ with
  | some value =>
    refine ensures_log_iff.mpr (Program.ensures_pure_iff.mpr fun _ => ⟨?_, rfl⟩)
    rw [found]
    rfl
  | none =>
    refine ensures_call_iff.mpr fun t' reply p later' ends => ?_
    cases reply with
    | error e => exact Program.ensures_pure_iff.mpr nofun
    | ok reply =>
      refine ensures_revise_iff.mpr fun t'' later'' => Program.ensures_pure_iff.mpr fun _ => ?_
      refine ⟨?_, rfl⟩
      rw [Cache.get?_set, if_pos (Nat.lt_add_of_pos_right lasts.records)]
      rfl

theorem ensures_owner_cached (found : (s.caches.owners.get? s.now domain).isSome) :
    Sync.Ensures (owner domain) s fun es _ s' => s'.now = s.now → es = [] ∧ s' = s := by
  refine ensures_look_still ?_
  obtain ⟨zone, here⟩ := Option.isSome_iff_exists.mp found
  dsimp only
  rw [here]
  exact ensures_log_iff.mpr (Program.ensures_pure_iff.mpr ⟨rfl, rfl⟩)

theorem ensures_records_cached
    (found : (s.caches.records.get? s.now ⟨zone, domain, family⟩).isSome) :
    Sync.Ensures (records zone domain family) s fun es _ s' =>
      s'.now = s.now → es = [] ∧ s' = s := by
  refine ensures_look_still ?_
  obtain ⟨zone, here⟩ := Option.isSome_iff_exists.mp found
  dsimp only
  rw [here]
  exact ensures_log_iff.mpr (Program.ensures_pure_iff.mpr ⟨rfl, rfl⟩)

end Directory

namespace Reconcile

variable {s : Scene} {zone : String} {domain : Domain} {family : Family}

theorem ensures_locate_warm (lasts : s.Lasts) (domain : Domain) (family : Family) :
    Sync.Ensures (locate domain family false) s fun _ found s' => s'.now = s.now →
      ∀ zone records, found = some (zone, records) → s'.Warm ⟨zone, domain, family⟩ := by
  refine ensures_bind_still ((ensures_owner_warm lasts domain).mono fun _ _ _ warm _ => warm) ?_
  intro es reply s' still warm
  cases reply with
  | error e =>
    refine (silent_logIntegrity _ _ _ e).ensures_bind (Program.ensures_pure_iff.mpr fun _ => nofun)
  | ok zone =>
    obtain ⟨owner, lasts⟩ := warm rfl
    refine ensures_bind_still
      ((ensures_records_warm lasts zone domain family).mono fun _ _ _ warm _ => warm) ?_
    intro es reply s'' still warm
    cases reply with
    | error e =>
      refine (silent_logIntegrity _ _ _ e).ensures_bind (Program.ensures_pure_iff.mpr fun _ => nofun)
    | ok records =>
      refine Program.ensures_pure_iff.mpr fun _ zone' records' same => ?_
      cases same
      obtain ⟨here, owners⟩ := warm rfl
      refine ⟨?_, here⟩
      rw [owners, still]
      exact owner

theorem ensures_locate_cached (h : s.ZonesTrue domain) (owned : s.provider.ownerOf domain = .ok zone)
    (warm : s.Warm ⟨zone, domain, family⟩) :
    Sync.Ensures (locate domain family false) s fun es _ s' => s'.now = s.now → es = [] := by
  have resolves : Sync.Ensures (owner domain) s fun es reply s' => s'.now = s.now →
      (es = [] ∧ s' = s) ∧ ∀ zone', reply = .ok zone' → zone' = zone := by
    intro es reply s' run still
    refine ⟨ensures_owner_cached warm.owner es reply s' run still, fun zone' same => ?_⟩
    have live := (ensures_owner h es reply s' run).true_of_ok zone' same
    exact Except.ok.inj (live.symm.trans owned)
  refine ensures_bind_still resolves ?_
  rintro es reply s' still ⟨⟨rfl, rfl⟩, resolved⟩
  cases reply with
  | error e =>
    exact (silent_logIntegrity _ _ _ e).ensures_bind (Program.ensures_pure_iff.mpr fun _ => rfl)
  | ok zone' =>
    obtain rfl := resolved zone' rfl
    refine ensures_bind_still (ensures_records_cached warm.records) ?_
    rintro es reply s'' still ⟨rfl, rfl⟩
    cases reply with
    | error e =>
      exact (silent_logIntegrity _ _ _ e).ensures_bind (Program.ensures_pure_iff.mpr fun _ => rfl)
    | ok records => exact Program.ensures_pure_iff.mpr fun _ => rfl

theorem ensures_converge_keepsWarm (t : Target) (records : List Record) (s : Scene) :
    Sync.Ensures (converge t records) s fun es _ s' => s.KeepsWarm t.key es s' :=
  ensures_converge_related sequential_keepsWarm t
    (fun _ _ _ _ _ _ changed => changed.keepsWarm) records s

end Reconcile

end AddressSync
