import AddressSync.Proofs.Directory.Obtaining
import AddressSync.Proofs.Provider.Shrinking
import Mathlib.Data.List.TakeWhile

/-! Lists of one account that are found or created in turns. Each has its own name, and all share the
cached index of the account. Under each name the index ends up with what the provider has, unless an
answer given before a list was created reaches the caches after the list did. -/

namespace AddressSync

open Sync Simulation Program Directory

variable {ι : Type} [DecidableEq ι] {target : ι → ListTarget} {account name : String}
  {es more before meanwhile : List (ι × Deed)} {i j : ι}

/-- The list of `i` is created and put into the index while `j` waits to store what it learned
before. -/
def Overtaken (target : ι → ListTarget) (i j : ι) : List (ι × Deed) → Prop
  | [] => False
  | e :: es =>
    e = (j, .called (target j).listing) ∧
      [(i, .called (target i).creation), (i, .wrote)].Sublist (es.takeWhile (·.1 ≠ j)) ∨
    Overtaken target i j es

instance decidableOvertaken (target : ι → ListTarget) (i j : ι) :
    (es : List (ι × Deed)) → Decidable (Overtaken target i j es)
  | [] => inferInstanceAs (Decidable False)
  | _ :: es =>
    have := decidableOvertaken target i j es
    inferInstanceAs (Decidable (_ ∧ _ ∨ _))

theorem Overtaken.append (h : Overtaken target i j es) : Overtaken target i j (es ++ more) := by
  induction es with
  | nil => exact h.elim
  | cons e es ih =>
    refine h.imp (And.imp_right fun inner => inner.trans ?_) ih
    rw [List.append_eq, List.takeWhile_append]
    split
    · exact (List.takeWhile_sublist _).trans (List.sublist_append_left ..)
    · exact List.Sublist.refl _

theorem Overtaken.sublist (h : Overtaken target i j es) :
    [(j, .called (target j).listing), (i, .called (target i).creation), (i, .wrote)].Sublist es := by
  induction es with
  | nil => exact h.elim
  | cons e es ih =>
    rcases h with ⟨rfl, inner⟩ | h
    · exact (inner.trans (List.takeWhile_sublist _)).cons_cons _
    · exact (ih h).cons e

theorem Overtaken.mem (h : Overtaken target i j es) : (i, .called (target i).creation) ∈ es :=
  h.sublist.subset (List.mem_cons_of_mem _ List.mem_cons_self)

theorem overtaken_of_meanwhile (others : ∀ e ∈ meanwhile, e.1 ≠ j)
    (inner : [(i, .called (target i).creation), (i, .wrote)].Sublist meanwhile) :
    Overtaken target i j (before ++ (j, .called (target j).listing) :: meanwhile) := by
  induction before with
  | nil =>
    refine .inl ⟨rfl, ?_⟩
    rwa [List.takeWhile_eq_self_iff.mpr fun e mem => decide_eq_true (others e mem)]
  | cons e before ih => exact .inr ih

omit [DecidableEq ι] in
theorem mem_noted_iff {deed : Deed} {deeds : List Deed} {past : List (ι × Deed)} :
    (j, deed) ∈ past ++ deeds.map (i, ·) ↔ (j, deed) ∈ past ∨ i = j ∧ deed ∈ deeds := by
  simp [and_comm]

/-- What is cached of the lists of the account is, under the names with the property, what the
provider has. -/
def Scene.NamesTrue (account : String) (N : String → Prop) (s : Scene) : Prop :=
  ∀ t index, s.now ≤ t → s.caches.indexes.get? t account = some index → ∀ name, N name →
    index.find? name = (ListIndex.ofLists (s.provider.listsOf account)).find? name

namespace Directory

/-- What `j` learned of the lists and did not store yet lacks no list but one that was created since:
either the index does not have that one yet, or it got it meanwhile. -/
def Waiting (target : ι → ListTarget) (account : String) (stages : ι → Obtaining) (s : Scene)
    (past : List (ι × Deed)) (j : ι) (lists : List NamedList) : Prop :=
  ∃ before meanwhile, past = before ++ (j, .called (target j).listing) :: meanwhile ∧
    (∀ e ∈ meanwhile, e.1 ≠ j) ∧
    ∀ name, (∀ i, (target i).name = name →
        ¬ [(i, .called (target i).creation), (i, .wrote)].Sublist meanwhile ∧
          ((i, .called (target i).creation) ∈ meanwhile → ∀ list, stages i ≠ .made list)) →
      (ListIndex.ofLists lists).find? name =
        (ListIndex.ofLists (s.provider.listsOf account)).find? name

/-- What is stored now lacks no list but one that the index does not have yet, or that was overtaken. -/
theorem Waiting.find? {stages : ι → Obtaining} {s : Scene} {past : List (ι × Deed)}
    {lists : List NamedList} (h : Waiting target account stages s past j lists)
    (sound : ∀ i j, (target i).name = name → ¬ Overtaken target i j past)
    (unmade : ∀ i, (target i).name = name → i ≠ j → ∀ list, stages i ≠ .made list) :
    (ListIndex.ofLists lists).find? name =
      (ListIndex.ofLists (s.provider.listsOf account)).find? name := by
  obtain ⟨before, meanwhile, rfl, others, agrees⟩ := h
  refine agrees name fun i named => ⟨fun inner => sound i j named ?_, fun mem => ?_⟩
  · exact overtaken_of_meanwhile others inner
  · exact unmade i named (others _ mem)

/-- What is true between any two turns. -/
structure Coordinated (target : ι → ListTarget) (account : String) (stages : ι → Obtaining) (s : Scene)
    (past : List (ι × Deed)) : Prop where
  known : ∀ i found, (stages i).found? = some found → s.provider.named? (target i) = found
  created : ∀ i, (i, .called (target i).creation) ∈ past → (stages i).list?.isSome
  cached : s.NamesTrue account fun name => ∀ i, (target i).name = name →
    (∀ j, ¬ Overtaken target i j past) ∧ ∀ list, stages i ≠ .made list
  waiting : ∀ j lists, stages j = .informed lists → Waiting target account stages s past j lists

namespace Coordinated

variable {stages : ι → Obtaining} {stage' : Obtaining} {s s' : Scene} {past : List (ι × Deed)}
  {deeds : List Deed} {list : NamedList}

theorem start (true : s.NamesTrue account fun _ => True) :
    Coordinated target account (fun _ => .begun) s [] where
  known _ _ same := nomatch same
  created _ mem := absurd mem List.not_mem_nil
  cached t index later found name _ := true t index later found name trivial
  waiting _ _ same := nomatch same

section

variable (h : Coordinated target account stages s past) (within : ∀ i, (target i).account = account)
  (distinct : ∀ i j, (target i).name = (target j).name → i = j)
  (step : Advances (target i) (stages i) s deeds stage' s')

include h step

theorem created_step (j : ι)
    (mem : (j, .called (target j).creation) ∈ past ++ deeds.map (i, ·)) :
    (Function.update stages i stage' j).list?.isSome := by
  by_cases same : j = i
  · subst same
    rw [Function.update_self]
    exact step.isSome_list? ((mem_noted_iff.mp mem).imp (h.created j) And.right)
  · rw [Function.update_of_ne same]
    exact h.created j ((mem_noted_iff.mp mem).resolve_right fun new => same new.1.symm)

omit step in
theorem not_overtaken (unknown : (stages i).list? = none) (j : ι) : ¬ Overtaken target i j past := by
  intro overtaken
  have some := h.created i overtaken.mem
  rw [unknown] at some
  cases some

include within distinct

theorem known_self {found : Option NamedList} (known : stage'.found? = some found) :
    s'.provider.named? (target i) = found := by
  have only {j : ι} (same : (target j).name = (target i).name) : j = i := distinct j i same
  generalize here : stages i = stage at step
  cases step with
  | hit later cached =>
    rw [Obtaining.found?_ofFound] at known
    rw [within i] at cached
    refine Eq.trans ?_ (Option.some.inj known)
    rw [Provider.named?, within i]
    refine (h.cached _ _ later cached _ fun j same => ?_).symm
    obtain rfl := only same
    exact ⟨h.not_overtaken (by rw [here]; rfl), by simp [here]⟩
  | store later =>
    rw [Obtaining.found?_ofFound] at known
    refine Eq.trans ?_ (Option.some.inj known)
    rw [Provider.named?, within i]
    refine ((h.waiting i _ here).find? (fun j k same => ?_) fun j same other => ?_).symm
    · obtain rfl := only same
      exact h.not_overtaken (by rw [here]; rfl) k
    · exact (other (only same)).elim
  | create later =>
    cases known
    exact Provider.named?_createList
  | patch later => exact h.known i found (by rw [here]; exact known)
  | other later provider =>
    rw [provider]
    exact h.known i found (by rw [here]; exact known)
  | miss | learn => cases known

theorem known_step (j : ι) {found : Option NamedList}
    (known : (Function.update stages i stage' j).found? = some found) :
    s'.provider.named? (target j) = found := by
  by_cases same : j = i
  · subst same
    rw [Function.update_self] at known
    exact h.known_self within distinct step known
  · rw [Function.update_of_ne same] at known
    have kept := step.find? (within i) fun named _ _ _ => same (distinct i j named).symm
    rw [Provider.named?, within j, kept, ← within j]
    exact h.known j found known

omit distinct in
theorem cached_step : s'.NamesTrue account fun name => ∀ j, (target j).name = name →
    (∀ k, ¬ Overtaken target j k (past ++ deeds.map (i, ·))) ∧
      ∀ list, Function.update stages i stage' j ≠ .made list := by
  intro t index later' found name fine
  have settled (named : (target i).name = name) (list : NamedList) : stage' ≠ .made list := by
    have settled := (fine i named).2 list
    rwa [Function.update_self] at settled
  rw [step.find? (within i) fun named _ => settled named]
  have sound (j k : ι) (named : (target j).name = name) : ¬ Overtaken target j k past :=
    fun overtaken => (fine j named).1 k overtaken.append
  have unmade (j : ι) (named : (target j).name = name) (other : j ≠ i) (list : NamedList) :
      stages j ≠ .made list := by
    have unmade := (fine j named).2 list
    rwa [Function.update_of_ne other] at unmade
  have past' := Nat.le_trans step.later later'
  -- most steps leave the index as it was
  have kept (cached : s'.caches.indexes = s.caches.indexes)
      (open' : ∀ list, stages i ≠ .made list) : index.find? name =
        (ListIndex.ofLists (s.provider.listsOf account)).find? name := by
    rw [cached] at found
    refine h.cached t index past' found name fun j named => ⟨fun k => sound j k named, ?_⟩
    by_cases same : j = i
    · subst same
      exact open'
    · exact unmade j named same
  generalize here : stages i = stage at step
  cases step with
  | hit | miss | learn | create => exact kept rfl (by rw [here]; exact fun _ => nofun)
  | other _ _ cached =>
    exact kept cached (by rw [here]; exact fun _ => Obtaining.ofFound_ne_made)
  | store later =>
    rw [within i, Cache.get?_set] at found
    split at found
    · cases found
      exact (h.waiting i _ here).find? sound unmade
    · cases found
  | @patch _ _ list later =>
    rw [within i, Cache.get?_modify later'] at found
    obtain ⟨old, cached, rfl⟩ := Option.map_eq_some_iff.mp found
    have known := h.known i (some list) (by rw [here]; rfl)
    have named := (Provider.names_of_find? known).name
    rw [Provider.named?, within i, ← named] at known
    refine ListIndex.find?_insert_of_known known fun other => ?_
    refine h.cached t old past' cached name fun j mine => ⟨fun k => sound j k mine, unmade j mine ?_⟩
    rintro rfl
    exact other (mine.symm.trans named.symm)

omit distinct in
theorem waiting_step (j : ι) {lists : List NamedList}
    (informed : Function.update stages i stage' j = .informed lists) :
    Waiting target account (Function.update stages i stage') s' (past ++ deeds.map (i, ·)) j lists := by
  by_cases same : j = i
  · subst same
    rw [Function.update_self] at informed
    subst informed
    obtain ⟨rfl, rfl⟩ := step.eq_of_informed
    refine ⟨past, [], rfl, nofun, fun name _ => ?_⟩
    rw [within j]
  · rw [Function.update_of_ne same] at informed
    obtain ⟨before, meanwhile, rfl, others, agrees⟩ := h.waiting j lists informed
    refine ⟨before, meanwhile ++ deeds.map (i, ·), by simp, fun e mem => ?_, fun name fine => ?_⟩
    · rcases mem_noted_iff.mp mem with mem | ⟨new, _⟩
      · exact others e mem
      · exact fun mine => same (mine.symm.trans new.symm)
    · have agrees := agrees name fun k named => ⟨fun inner => ?_, fun mem list made => ?_⟩
      · rw [agrees, step.find? (within i) fun named called list made => ?_]
        refine (fine i named).2 (mem_noted_iff.mpr (.inr ⟨rfl, called⟩)) list ?_
        rw [Function.update_self, made]
      · exact (fine k named).1 (inner.trans (List.sublist_append_left ..))
      · by_cases here : k = i
        · -- the list is put into the index now, and the answer is not stored yet
          subst here
          rw [made] at step
          rw [step.eq_of_made] at fine
          exact (fine k named).1 ((List.singleton_sublist.mpr mem).append (.refl [_]))
        · refine (fine k named).2 (List.mem_append_left _ mem) list ?_
          rw [Function.update_of_ne here, made]

theorem advance :
    Coordinated target account (Function.update stages i stage') s' (past ++ deeds.map (i, ·)) where
  known := fun j _ => h.known_step within distinct step j
  created := h.created_step step
  cached := h.cached_step within step
  waiting := fun j _ => h.waiting_step within step j

end

theorem namesTrue (h : Coordinated target account stages s past)
    (settled : ∀ i list, stages i ≠ .made list) : s.NamesTrue account fun name =>
      ∀ i j, (target i).name = name → ¬ Overtaken target i j past :=
  fun t index later found name fine => h.cached t index later found name fun i named =>
    ⟨fun j => fine i j named, settled i⟩

end Coordinated

end Directory

end AddressSync
