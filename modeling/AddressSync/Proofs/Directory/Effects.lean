import AddressSync.Directory.Through
import AddressSync.Proofs.Provider.Records

/-! The two shapes that the operations on the provider have, and what each can do. A read looks in a
cache and only calls where nothing is found; a change makes one call and then brings a cache up to
date, by a patch where the call succeeded and by forgetting where it failed. -/

namespace AddressSync

open Sync

structure Scene.Quiet (s : Scene) (es : List Moment) (s' : Scene) : Prop where
  later : s.now ≤ s'.now
  provider : s'.provider = s.provider
  moments : ∀ m ∈ es, ¬ m.Mutates ∧ m.Throughout (· = s.provider)
  untold : Untold es

namespace Scene

variable {s s' s'' : Scene} {es es' : List Moment}

theorem quiet_pass {t : Nat} {caches : Caches} (later : s.now ≤ t) :
    s.Quiet [] ⟨t, s.provider, caches⟩ := by
  refine ⟨later, rfl, fun m mem => ?_, untold_nil⟩
  cases mem

theorem Quiet.trans (first : s.Quiet es s') (rest : s'.Quiet es' s'') : s.Quiet (es ++ es') s'' := by
  refine ⟨Nat.le_trans first.later rest.later, rest.provider.trans first.provider, fun m mem => ?_,
    untold_append.mpr ⟨first.untold, rest.untold⟩⟩
  rcases List.mem_append.mp mem with mem | mem
  · exact first.moments m mem
  · rw [← first.provider]
    exact rest.moments m mem

theorem quiet_call {c : Call} {reply : Except Failure c.Reply} (reads : c.isMutation = false) :
    s.Quiet [.called c reply s.provider s.provider] s := by
  refine ⟨Nat.le_refl _, rfl, fun m mem => ?_, by simp⟩
  rw [List.mem_singleton.mp mem]
  exact ⟨fun mutates => Bool.false_ne_true (reads.symm.trans mutates), rfl, rfl⟩

theorem quiet_stopAsked (answer : Bool) : s.Quiet [.stopAsked answer] s := by
  refine ⟨Nat.le_refl _, rfl, fun m mem => ?_, by simp⟩
  rw [List.mem_singleton.mp mem]
  exact ⟨id, trivial⟩

/-- What comes of a read: it asks for nothing but what there is, what it gives is true, and the
caches are as they were or have it stored. -/
structure Fetches (s : Scene) {ν : Type} (live : ν → Prop) (store : ν → Nat → Caches → Caches)
    (es : List Moment) (reply : Except Failure ν) (s' : Scene) : Prop where
  quiet : s.Quiet es s'
  true_of_ok : ∀ value, reply = .ok value → live value
  failed : ∀ e, reply = .error e → ∃ m ∈ es, m.Fails
  caches : s'.caches = s.caches ∨ ∃ value, live value ∧ s'.caches = store value s'.now s.caches

/-- What comes of a change: one call was made, and the caches follow its reply. -/
structure Change (s : Scene) (c : Call) (patch : c.Reply → Nat → Caches → Caches)
    (forget : Caches → Caches) (es : List Moment) (reply : Except Failure c.Reply) (s' : Scene) :
    Prop where
  later : s.now ≤ s'.now
  moments : es = [.called c reply s.provider s'.provider]
  ends : s.provider.Ends c reply s'.provider
  caches : s'.caches = match reply with
    | .ok x => patch x s'.now s.caches
    | .error _ => forget s.caches

theorem Change.failed {c : Call} {patch : c.Reply → Nat → Caches → Caches}
    {forget : Caches → Caches} {e : Failure} (change : s.Change c patch forget es (.error e) s') :
    ∃ m ∈ es, m.Fails := by
  rw [change.moments]
  exact ⟨_, List.mem_singleton_self _, rfl⟩

end Scene

namespace Directory

open Scene

theorem ensures_fetch {c : Call} {ν : Type} {cached : Nat → Caches → Option ν} {hit : Sync Unit}
    {read : c.Reply → ν} {store : ν → Nat → Caches → Caches} {live : ν → Prop} {s : Scene}
    (reads : c.isMutation = false) (silent : Silent hit)
    (said : ∀ t value, s.now ≤ t → cached t s.caches = some value → live value)
    (fresh : ∀ reply, (s.provider.perform c).1 = .ok reply → live (read reply)) :
    Sync.Ensures (fetch c cached hit read store) s (s.Fetches live store) := by
  refine ensures_look_iff.mpr fun t later => ?_
  dsimp only
  cases found : cached t s.caches with
  | some value =>
    refine silent.ensures_bind (Program.ensures_pure_iff.mpr
      ⟨quiet_pass later, ?_, (fun e same => nomatch same), .inl rfl⟩)
    intro value' same
    rw [← Except.ok.inj same]
    exact said t value later found
  | none =>
    refine ensures_call_iff.mpr fun t' reply p later' ends => ?_
    obtain rfl := ends.of_reads reads
    have asked : s.Quiet [.called c reply s.provider s.provider] ⟨t', s.provider, s.caches⟩ :=
      (quiet_call reads).trans (quiet_pass (Nat.le_trans later later'))
    cases reply with
    | error e =>
      refine Program.ensures_pure_iff.mpr ⟨asked, (fun value same => nomatch same), fun _ _ => ?_,
        .inl rfl⟩
      exact ⟨_, List.mem_singleton_self _, rfl⟩
    | ok reply =>
      have true := fresh reply ends.of_ok.1
      refine ensures_revise_iff.mpr fun t'' later'' => Program.ensures_pure_iff.mpr ?_
      refine ⟨asked.trans (quiet_pass later''), fun value same => ?_, (fun e same => nomatch same),
        .inr ⟨_, true, rfl⟩⟩
      rw [← Except.ok.inj same]
      exact true

theorem ensures_fetch_missed {c : Call} {ν : Type} {cached : Nat → Caches → Option ν}
    {hit : Sync Unit} {read : c.Reply → ν} {store : ν → Nat → Caches → Caches} (silent : Silent hit)
    (s : Scene) :
    Sync.Ensures (fetch c cached hit read store) s fun _ reply s' => ∀ e, reply = .error e →
      s'.caches = s.caches ∧ ∃ t ≤ s'.now, cached t s.caches = none := by
  refine ensures_look_iff.mpr fun t later => ?_
  dsimp only
  cases found : cached t s.caches with
  | some value => exact silent.ensures_bind (Program.ensures_pure_iff.mpr nofun)
  | none =>
    refine ensures_call_iff.mpr fun t' reply p later' ends => ?_
    cases reply with
    | error e => exact Program.ensures_pure_iff.mpr fun _ _ => ⟨rfl, t, later', found⟩
    | ok reply => exact ensures_revise_iff.mpr fun t'' later'' => Program.ensures_pure_iff.mpr nofun

theorem ensures_change {c : Call} {patch : c.Reply → Nat → Caches → Caches}
    {forget : Caches → Caches} (s : Scene) :
    Sync.Ensures (change c patch forget) s (s.Change c patch forget) := by
  refine ensures_call_iff.mpr fun t reply p later ends => ?_
  cases reply with
  | ok reply =>
    refine ensures_revise_iff.mpr fun t' later' => Program.ensures_pure_iff.mpr ?_
    exact ⟨Nat.le_trans later later', rfl, ends, rfl⟩
  | error e =>
    refine ensures_revise_iff.mpr fun t' later' => Program.ensures_pure_iff.mpr ?_
    exact ⟨Nat.le_trans later later', rfl, ends, rfl⟩

end Directory

end AddressSync
