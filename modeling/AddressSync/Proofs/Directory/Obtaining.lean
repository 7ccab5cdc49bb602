import AddressSync.Proofs.Provider.Lists
import AddressSync.Proofs.Reconcile.Requests
import AddressSync.Proofs.Surroundings.Shared

/-! Finding a list or creating it, step by step, in surroundings that others share: how far it has
come, and what each step can do. -/

namespace AddressSync

open Sync Simulation Program

def ListTarget.listing (target : ListTarget) : Call := .listLists target.account

def ListTarget.creation (target : ListTarget) : Call :=
  .createList target.account target.name target.description

namespace Directory

inductive Obtaining
  | begun
  | missed
  /-- The provider told its lists, and the caches have not been told. -/
  | informed (lists : List NamedList)
  | lacking
  | made (list : NamedList)
  | having (list : NamedList)

namespace Obtaining

def ofFound : Option NamedList → Obtaining
  | none => .lacking
  | some list => .having list

/-- What is known of the list of the name, once anything is. -/
def found? : Obtaining → Option (Option NamedList)
  | .lacking => some none
  | .made list | .having list => some (some list)
  | .begun | .missed | .informed _ => none

def list? (stage : Obtaining) : Option NamedList := stage.found?.join

theorem found?_ofFound (found : Option NamedList) : (ofFound found).found? = some found := by
  cases found <;> rfl

theorem ofFound_ne_informed {found : Option NamedList} {lists : List NamedList} :
    ofFound found ≠ .informed lists := by
  cases found <;> exact nofun

theorem ofFound_ne_made {found : Option NamedList} {list : NamedList} :
    ofFound found ≠ .made list := by
  cases found <;> exact nofun

theorem ofFound_ne_begun {found : Option NamedList} : ofFound found ≠ .begun := by
  cases found <;> exact nofun

theorem ofFound_ne_missed {found : Option NamedList} : ofFound found ≠ .missed := by
  cases found <;> exact nofun

end Obtaining

/-- What a step of the work can do: in the scene, and to how far the work has come. -/
inductive Advances (target : ListTarget) :
    Obtaining → Scene → List Deed → Obtaining → Scene → Prop
  | hit {s : Scene} {t : Nat} {index : ListIndex} (later : s.now ≤ t)
      (found : s.caches.indexes.get? t target.account = some index) :
      Advances target .begun s [.looked] (.ofFound (index.find? target.name)) { s with now := t }
  | miss {s : Scene} {t : Nat} (later : s.now ≤ t) :
      Advances target .begun s [.looked] .missed { s with now := t }
  | learn {s : Scene} {t : Nat} (later : s.now ≤ t) :
      Advances target .missed s [.called target.listing]
        (.informed (s.provider.listsOf target.account)) { s with now := t }
  | store {s : Scene} {t : Nat} {lists : List NamedList} (later : s.now ≤ t) :
      Advances target (.informed lists) s [.wrote]
        (.ofFound ((ListIndex.ofLists lists).find? target.name)) { s with
          now := t
          caches.indexes := s.caches.indexes.set t target.account (.ofLists lists) }
  | create {s : Scene} {t : Nat} (later : s.now ≤ t) :
      Advances target .lacking s [.called target.creation]
        (.made (s.provider.nextList target.name target.description))
        { s with now := t, provider := (s.provider.perform target.creation).2 }
  | patch {s : Scene} {t : Nat} {list : NamedList} (later : s.now ≤ t) :
      Advances target (.made list) s [.wrote] (.having list) { s with
        now := t
        caches.indexes := s.caches.indexes.modify t target.account (·.insert list) }
  | other {s s' : Scene} {es : List Deed} {found : Option NamedList} (later : s.now ≤ s'.now)
      (provider : s'.provider = s.provider) (cached : s'.caches.indexes = s.caches.indexes)
      (uncalled : ∀ c, .called c ∉ es) :
      Advances target (.ofFound found) s es (.ofFound found) s'

section

variable {target : ListTarget} {stage stage' : Obtaining} {s s' : Scene} {es : List Deed}
  {list : NamedList} {lists : List NamedList} {account name : String}

theorem Advances.later (step : Advances target stage s es stage' s') : s.now ≤ s'.now := by
  cases step <;> assumption

theorem Advances.find? (step : Advances target stage s es stage' s')
    (here : target.account = account) (settled : target.name = name →
      .called target.creation ∈ es → ∀ list, stage' ≠ .made list) :
    (ListIndex.ofLists (s'.provider.listsOf account)).find? name =
      (ListIndex.ofLists (s.provider.listsOf account)).find? name := by
  subst here
  cases step with
  | create later =>
    refine Provider.find?_createList_of_ne fun named => ?_
    exact settled named.symm (List.mem_singleton_self _) _ rfl
  | other later provider => rw [provider]
  | hit | miss | learn | store | patch => rfl

theorem Advances.isSome_list? (step : Advances target stage s es stage' s')
    (before : stage.list?.isSome ∨ .called target.creation ∈ es) : stage'.list?.isSome := by
  cases step with
  | create | patch => rfl
  | other later provider cached uncalled => exact before.resolve_right (uncalled _)
  | hit | miss | learn | store =>
    rcases before with known | called
    · cases known
    · cases List.mem_singleton.mp called

theorem Advances.moved (step : Advances target stage s es stage' s') :
    stage' ≠ .begun ∧ (stage' = .missed → stage = .begun) := by
  cases step with
  | hit | store | other =>
    exact ⟨Obtaining.ofFound_ne_begun, fun missed => (Obtaining.ofFound_ne_missed missed).elim⟩
  | miss => exact ⟨nofun, fun _ => rfl⟩
  | learn | create | patch => exact ⟨nofun, nofun⟩

theorem Advances.of_informed (step : Advances target (.informed lists) s es stage' s') :
    es = [.wrote] := by
  generalize begun : Obtaining.informed lists = stage at step
  cases step with
  | store => rfl
  | other => exact (Obtaining.ofFound_ne_informed begun.symm).elim
  | hit | miss | learn | create | patch => cases begun

theorem Advances.eq_of_made (step : Advances target (.made list) s es stage' s') :
    es = [.wrote] := by
  generalize begun : Obtaining.made list = stage at step
  cases step with
  | patch => rfl
  | other => exact (Obtaining.ofFound_ne_made begun.symm).elim
  | hit | miss | learn | store | create => cases begun

/-- To learn of the lists is the first call, and what was learned is stored next. -/
theorem Advances.of_listing (step : Advances target stage s es stage' s')
    (called : .called target.listing ∈ es) :
    stage = .missed ∧ stage' = .informed (s'.provider.listsOf target.account) := by
  cases step with
  | learn => exact ⟨rfl, rfl⟩
  | other later provider cached uncalled => exact (uncalled _ called).elim
  | create => cases List.mem_singleton.mp called
  | hit | miss | store | patch => cases List.mem_singleton.mp called

theorem Advances.of_creation (step : Advances target stage s es stage' s')
    (called : .called target.creation ∈ es) : stage = .lacking := by
  cases step with
  | create => rfl
  | other later provider cached uncalled => exact (uncalled _ called).elim
  | hit | miss | learn | store | patch => cases List.mem_singleton.mp called

/-- A list is made by its creation, which is all that is noted of it. -/
theorem Advances.of_made (step : Advances target stage s es (.made list) s') :
    es = [.called target.creation] := by
  generalize ended : Obtaining.made list = stage' at step
  cases step with
  | create => rfl
  | hit | store | other => exact (Obtaining.ofFound_ne_made ended.symm).elim
  | miss | learn | patch => cases ended

theorem Advances.eq_of_informed (step : Advances target stage s es (.informed lists) s') :
    es = [.called target.listing] ∧ lists = s'.provider.listsOf target.account := by
  generalize ended : Obtaining.informed lists = stage' at step
  cases step with
  | learn =>
    cases ended
    exact ⟨rfl, rfl⟩
  | hit | store | other => exact (Obtaining.ofFound_ne_informed ended.symm).elim
  | miss | create | patch => cases ended

end

/-- The program goes on from there by such steps to the list, whatever happens between them. -/
def Proceeds (target : ListTarget) : Sync (Except Failure (NamedList × Bool)) → Obtaining → Prop
  | .done reply, stage => ∃ list created, stage = .having list ∧ reply = .ok (list, created)
  | .ask r next, stage => ∀ s x es s', Scene.serve s r x es s' →
    ∃ stage', Advances target stage s es stage' s' ∧ Proceeds target (next x) stage'

variable {target : ListTarget} {stage : Obtaining}

theorem proceeds_log_bind {level : Log.Level} {message : String}
    {fields : List (String × Log.Field)} {found : Option NamedList}
    {f : Unit → Sync (Except Failure (NamedList × Bool))}
    (rest : Proceeds target (f ()) (.ofFound found)) :
    Proceeds target (log level message fields >>= f) (.ofFound found) := by
  rintro s x es s' ⟨rfl, rfl⟩
  exact ⟨_, .other (Nat.le_refl _) rfl rfl (fun _ => List.not_mem_nil), rest⟩

theorem proceeds_obtainFrom (found : Option NamedList) :
    Proceeds target (obtainFrom target (.ok found)) (.ofFound found) := by
  cases found with
  | some list =>
    have done : Proceeds target (pure (.ok (list, false))) (.ofFound (some list)) :=
      ⟨list, false, rfl, rfl⟩
    rw [obtainFrom]
    split
    · exact proceeds_log_bind done
    · exact done
  | none =>
    rintro s reply es s' ⟨⟨later, caches, performed⟩, rfl⟩
    obtain ⟨t, p, c⟩ := s'
    obtain rfl : c = s.caches := caches
    cases performed
    refine ⟨_, .create later, ?_⟩
    rintro s x es s' ⟨⟨later, same⟩, rfl⟩
    rw [same]
    refine ⟨_, .patch later, ?_⟩
    rintro s x es s' ⟨⟨later, same⟩, rfl⟩
    rw [same]
    exact ⟨_, @Advances.other _ _ _ _ (some _) later rfl rfl (by simp [deeds]), _, true, rfl, rfl⟩

theorem proceeds_obtainList (target : ListTarget) :
    Proceeds target (obtainList target) .begun := by
  rw [obtainList_eq]
  rintro s seen es s' ⟨⟨later, same, rfl⟩, rfl⟩
  rw [same]
  dsimp only [Program.bind]
  cases found : s.caches.indexes.get? s'.now target.account with
  | some index =>
    exact ⟨_, .hit later found,
      proceeds_log_bind (f := fun _ => obtainFrom target (.ok (index.find? target.name)))
        (proceeds_obtainFrom _)⟩
  | none =>
    refine ⟨_, .miss later, ?_⟩
    rintro s reply es s' ⟨⟨later, caches, performed⟩, rfl⟩
    obtain ⟨t, p, c⟩ := s'
    obtain rfl : c = s.caches := caches
    cases performed
    refine ⟨_, .learn later, ?_⟩
    rintro s x es s' ⟨⟨later, same⟩, rfl⟩
    rw [same]
    exact ⟨_, .store later, proceeds_obtainFrom _⟩

theorem ensures_obtainList_named {s : Scene} {list : NamedList}
    (said : ∀ t index, s.now ≤ t → s.caches.indexes.get? t target.account = some index →
      index.find? target.name = some list)
    (named : s.provider.named? target = some list) :
    Sync.Ensures (obtainList target) s fun es reply _ =>
      (∀ m ∈ es, ¬ m.Mutates) ∧ ((∀ m ∈ es, ¬ m.Fails) → reply = .ok (list, false)) := by
  have fetches : Sync.Ensures (index target.account) s
      (s.Fetches (fun index => index.find? target.name = some list)
        fun index now c => { c with indexes := c.indexes.set now target.account index }) :=
    ensures_fetch rfl (silent_log _ _ _) said fun reply live => by
      rwa [← Except.ok.inj live]
  rw [obtainList_eq, findList, LawfulMonad.bind_assoc]
  refine fetches.bind fun es reply s' ⟨quiet, true_of_ok, failed, _⟩ => ?_
  have reads : ∀ m ∈ es ++ [], ¬ m.Mutates := by
    rw [List.append_nil]
    exact fun m mem => (quiet.moments m mem).1
  cases reply with
  | error e =>
    obtain ⟨m, mem, fails⟩ := failed e rfl
    exact ensures_pure_iff.mpr
      ⟨reads, fun succeeds => (succeeds m (List.mem_append_left [] mem) fails).elim⟩
  | ok index =>
    have found := true_of_ok index rfl
    rw [pure_bind, found, obtainFrom]
    refine (silent_log _ _ _).ensures_guard (ensures_pure_iff.mpr ?_)
    exact ⟨reads, fun _ => rfl⟩

end Directory

end AddressSync
