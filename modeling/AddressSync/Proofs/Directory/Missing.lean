import AddressSync.Proofs.Directory.Overtaking
import AddressSync.Proofs.Surroundings.Simulated

/-! A list that was overtaken is missing from the cached index. What another program learned before
the list was created comes to be stored after the list was put into the index, and takes its place.
Where two programs take turns nothing is learned after that, so the list is missing at the end. -/

namespace AddressSync

open Sync Simulation Program Directory

section

variable {α : Type} {a b : α} {front back : List α}

theorem pair_sublist_of_not_mem (sub : [a, b].Sublist (front ++ back)) (absent : b ∉ back) :
    [a, b].Sublist front := by
  obtain ⟨before, behind, split, inFront, inBack⟩ := List.sublist_append_iff.mp sub
  rcases List.eq_nil_or_concat behind with rfl | ⟨rest, c, rfl⟩
  · rwa [split, List.append_nil]
  · have last : b = c := by
      have last := congrArg List.getLast? split
      simpa using last
    rw [last] at absent
    exact absurd (inBack.subset (by simp)) absent

end

variable {ι : Type} [DecidableEq ι] {target : ι → ListTarget} {account name : String}
  {es past more : List (ι × Deed)} {i j m : ι} {deeds : List Deed}

/-- Nobody learned of the lists since that of `i` was created. -/
def NoneLearnedSince (target : ι → ListTarget) (i : ι) (es : List (ι × Deed)) : Prop :=
  ∀ k, k ≠ i → (k, .called (target k).listing) ∈ es →
    [(k, .called (target k).listing), (i, .called (target i).creation)].Sublist es

/-- Whatever is cached of the lists of the account has none of the name. -/
def Scene.Lacks (account name : String) (s : Scene) : Prop :=
  ∀ t index, s.now ≤ t → s.caches.indexes.get? t account = some index → index.find? name = none

/-- The last note about a program. -/
def lastOf (j : ι) (es : List (ι × Deed)) : Option (ι × Deed) := (es.filter (·.1 = j)).getLast?

theorem lastOf_append (j : ι) (es more : List (ι × Deed)) :
    lastOf j (es ++ more) = (lastOf j more).or (lastOf j es) := by
  rw [lastOf, List.filter_append, List.getLast?_append]
  rfl

theorem lastOf_cons (j : ι) (e : ι × Deed) (es : List (ι × Deed)) :
    lastOf j (e :: es) = (lastOf j es).or (if e.1 = j then some e else none) := by
  have single : lastOf j [e] = if e.1 = j then some e else none := by
    by_cases mine : e.1 = j <;> simp [lastOf, mine]
  rw [← single, ← lastOf_append, List.singleton_append]

omit [DecidableEq ι] in
theorem forall_noted (m : ι) (deeds : List Deed) : ∀ e ∈ deeds.map (m, ·), e.1 = m := by
  intro e mem
  obtain ⟨deed, -, rfl⟩ := List.mem_map.mp mem
  rfl

theorem lastOf_noted (m : ι) (deeds : List Deed) :
    lastOf m (deeds.map (m, ·)) = deeds.getLast?.map (m, ·) := by
  have all : (deeds.map (m, ·)).filter (·.1 = m) = deeds.map (m, ·) :=
    List.filter_eq_self.mpr fun e mem => decide_eq_true (forall_noted m deeds e mem)
  rw [lastOf, all, List.getLast?_map]

theorem lastOf_eq_none (elsewhere : ∀ e ∈ es, e.1 ≠ j) : lastOf j es = none := by
  rw [lastOf, List.filter_eq_nil_iff.mpr fun e mem => by simpa using elsewhere e mem]
  rfl

theorem lastOf_append_of_ne (other : j ≠ m) (past : List (ι × Deed)) (deeds : List Deed) :
    lastOf j (past ++ deeds.map (m, ·)) = lastOf j past := by
  have elsewhere : ∀ e ∈ deeds.map (m, ·), e.1 ≠ j := fun e mem =>
    forall_noted m deeds e mem ▸ other.symm
  rw [lastOf_append, lastOf_eq_none elsewhere]
  rfl

namespace Overtaken

theorem ne (h : Overtaken target i j es) : i ≠ j := by
  induction es with
  | nil => exact h.elim
  | cons e es ih =>
    rcases h with ⟨-, inner⟩ | h
    · simpa using List.mem_takeWhile_imp (inner.subset List.mem_cons_self)
    · exact ih h

theorem learned_before (h : Overtaken target i j es) :
    [(j, .called (target j).listing), (i, .called (target i).creation)].Sublist es :=
  (List.sublist_append_left [_, _] [(i, Deed.wrote)]).trans h.sublist

/-- Notes of others only make a list overtaken while `j` waits. -/
theorem of_append_of_ne (other : j ≠ m) (h : Overtaken target i j (past ++ deeds.map (m, ·))) :
    Overtaken target i j past ∨ lastOf j past = some (j, .called (target j).listing) := by
  have elsewhere : ∀ e ∈ deeds.map (m, ·), e.1 ≠ j := fun e mem same =>
    other (same.symm.trans (forall_noted m deeds e mem))
  induction past with
  | nil => exact absurd rfl (elsewhere _ (h.sublist.subset List.mem_cons_self))
  | cons e past ih =>
    rw [lastOf_cons]
    rcases h with ⟨rfl, inner⟩ | h
    · rw [if_pos rfl]
      by_cases waits : ∀ e ∈ past, e.1 ≠ j
      · exact .inr (by rw [lastOf_eq_none waits]; rfl)
      · refine .inl (.inl ⟨rfl, ?_⟩)
        rw [List.append_eq, List.takeWhile_append, if_neg] at inner
        · exact inner
        · intro whole
          have all := List.takeWhile_eq_self_iff.mp ((List.takeWhile_sublist _).eq_of_length whole)
          exact waits fun e mem => of_decide_eq_true (all e mem)
    · exact (ih h).imp .inr fun last => by rw [last]; rfl

theorem of_append_self (unlearned : .called (target m).listing ∉ deeds)
    (h : Overtaken target i m (past ++ deeds.map (m, ·))) : Overtaken target i m past := by
  induction past with
  | nil =>
    have mem := h.sublist.subset List.mem_cons_self
    rw [List.nil_append] at mem
    obtain ⟨deed, among, same⟩ := List.mem_map.mp mem
    cases same
    exact absurd among unlearned
  | cons e past ih =>
    refine h.imp (And.imp_right fun inner => ?_) ih
    have none : (deeds.map (m, ·)).takeWhile (·.1 ≠ m) = [] := by
      cases deeds with
      | nil => rfl
      | cons deed deeds => exact List.takeWhile_cons_of_neg (by simp)
    rw [List.append_eq, List.takeWhile_append, none, List.append_nil] at inner
    split at inner
    · next whole => rwa [(List.takeWhile_sublist _).eq_of_length whole]
    · exact inner

end Overtaken

namespace Directory

/-- What is true between any two turns of what comes too late. -/
structure Lagging (target : ι → ListTarget) (account : String) (stages : ι → Obtaining) (s : Scene)
    (past : List (ι × Deed)) : Prop where
  listed : ∀ j, (j, .called (target j).listing) ∈ past → stages j ≠ .begun ∧ stages j ≠ .missed
  recent : ∀ j, lastOf j past = some (j, .called (target j).listing) →
    ∃ lists, stages j = .informed lists
  unmade : ∀ i, [(i, .called (target i).creation), (i, .wrote)].Sublist past →
    ∀ list, stages i ≠ .made list
  /-- What was learned before a list was created lacks it. -/
  behind : ∀ i j lists, stages j = .informed lists →
    [(j, .called (target j).listing), (i, .called (target i).creation)].Sublist past →
      (ListIndex.ofLists lists).find? (target i).name = none
  lost : ∀ i j, Overtaken target i j past → (∀ lists, stages j ≠ .informed lists) →
    NoneLearnedSince target i past → s.Lacks account (target i).name

namespace Lagging

variable {stages : ι → Obtaining} {stage' : Obtaining} {s s' : Scene}

theorem start : Lagging target account (fun _ => .begun) s [] where
  listed _ mem := absurd mem List.not_mem_nil
  recent _ last := nomatch last
  unmade _ _ _ := nofun
  behind _ _ _ informed := nomatch informed
  lost _ _ overtaken := overtaken.elim

section

variable (h : Coordinated target account stages s past) (l : Lagging target account stages s past)
  (step : Advances (target m) (stages m) s deeds stage' s')

include l step

theorem listed_step (j : ι) (mem : (j, .called (target j).listing) ∈ past ++ deeds.map (m, ·)) :
    Function.update stages m stage' j ≠ .begun ∧ Function.update stages m stage' j ≠ .missed := by
  by_cases same : j = m
  · subst same
    rw [Function.update_self]
    refine ⟨step.moved.1, fun missed => ?_⟩
    rcases mem_noted_iff.mp mem with before | ⟨-, called⟩
    · exact (l.listed j before).1 (step.moved.2 missed)
    · rw [(step.of_listing called).2] at missed
      cases missed
  · rw [Function.update_of_ne same]
    exact l.listed j ((mem_noted_iff.mp mem).resolve_right fun new => same new.1.symm)

theorem recent_step (j : ι)
    (last : lastOf j (past ++ deeds.map (m, ·)) = some (j, .called (target j).listing)) :
    ∃ lists, Function.update stages m stage' j = .informed lists := by
  by_cases same : j = m
  · subst same
    rw [Function.update_self]
    rw [lastOf_append, lastOf_noted] at last
    cases noted : deeds.getLast? with
    | none =>
      rw [noted] at last
      obtain ⟨lists, informed⟩ := l.recent j last
      rw [informed] at step
      rw [step.of_informed] at noted
      cases noted
    | some deed =>
      rw [noted] at last
      cases last
      exact ⟨_, (step.of_listing (List.mem_of_getLast? noted)).2⟩
  · rw [lastOf_append_of_ne same] at last
    rw [Function.update_of_ne same]
    exact l.recent j last

theorem overtaken_before (overtaken : Overtaken target i j (past ++ deeds.map (m, ·)))
    (stored : ∀ lists, Function.update stages m stage' j ≠ .informed lists) :
    Overtaken target i j past := by
  by_cases same : j = m
  · subst same
    exact overtaken.of_append_self fun called =>
      stored _ ((Function.update_self ..).trans (step.of_listing called).2)
  · refine (overtaken.of_append_of_ne same).resolve_right fun last => ?_
    obtain ⟨lists, informed⟩ := l.recent j last
    exact stored lists (by rw [Function.update_of_ne same]; exact informed)

include h

omit step in
theorem having_of_overtaken (overtaken : Overtaken target i j past) :
    ∃ list, stages i = .having list := by
  have some := h.created i overtaken.mem
  cases stage : stages i with
  | having list => exact ⟨list, rfl⟩
  | made list =>
    exact absurd stage (l.unmade i (List.sublist_of_cons_sublist overtaken.sublist) list)
  | begun | missed | informed | lacking =>
    rw [stage] at some
    cases some

omit l in
/-- A list is created once. -/
theorem not_mem_of_created (created : (i, .called (target i).creation) ∈ past) :
    (i, .called (target i).creation) ∉ deeds.map (m, ·) := by
  intro mem
  obtain rfl := forall_noted m deeds _ mem
  obtain ⟨deed, called, same⟩ := List.mem_map.mp mem
  cases same
  have some := h.created i created
  rw [step.of_creation called] at some
  cases some

omit l in
theorem noneLearnedSince_before (created : (i, .called (target i).creation) ∈ past)
    (alone : NoneLearnedSince target i (past ++ deeds.map (m, ·))) :
    NoneLearnedSince target i past := fun k other mem =>
  pair_sublist_of_not_mem (alone k other (List.mem_append_left _ mem))
    (not_mem_of_created h step created)

theorem unmade_step (i : ι)
    (inner : [(i, .called (target i).creation), (i, .wrote)].Sublist (past ++ deeds.map (m, ·)))
    (list : NamedList) : Function.update stages m stage' i ≠ .made list := by
  intro made
  by_cases same : i = m
  · subst same
    rw [Function.update_self] at made
    subst made
    have new := step.of_made
    have lacking := step.of_creation (by rw [new]; exact List.mem_singleton_self _)
    subst new
    have before := pair_sublist_of_not_mem inner (by simp)
    have some := h.created i (before.subset List.mem_cons_self)
    rw [lacking] at some
    cases some
  · rw [Function.update_of_ne same] at made
    refine l.unmade i (pair_sublist_of_not_mem inner fun mem => ?_) list made
    exact same (forall_noted m deeds _ mem)

variable (within : ∀ i, (target i).account = account)
  (distinct : ∀ i j, (target i).name = (target j).name → i = j)

include within distinct

theorem behind_step (i j : ι) (lists : List NamedList)
    (informed : Function.update stages m stage' j = .informed lists)
    (before : [(j, .called (target j).listing), (i, .called (target i).creation)].Sublist
      (past ++ deeds.map (m, ·))) : (ListIndex.ofLists lists).find? (target i).name = none := by
  by_cases same : j = m
  · subst same
    rw [Function.update_self] at informed
    subst informed
    have new := step.eq_of_informed.1
    have missed := (step.of_listing (by rw [new]; exact List.mem_singleton_self _)).1
    subst new
    have before := pair_sublist_of_not_mem before (by simp [ListTarget.listing, ListTarget.creation])
    exact absurd missed (l.listed j (before.subset List.mem_cons_self)).2
  · rw [Function.update_of_ne same] at informed
    by_cases mem : (i, .called (target i).creation) ∈ deeds.map (m, ·)
    · -- the list is created now, and the provider did not have it when it told its lists
      obtain rfl := forall_noted m deeds _ mem
      obtain ⟨deed, called, same⟩ := List.mem_map.mp mem
      cases same
      have lacking := step.of_creation called
      have new (old : (i, .called (target i).creation) ∈ past) : False :=
        not_mem_of_created h step old mem
      obtain ⟨front, meanwhile, rfl, -, agrees⟩ := h.waiting j lists informed
      have later (mem : (i, .called (target i).creation) ∈ meanwhile) : False :=
        new (List.mem_append_right _ (List.mem_cons_of_mem _ mem))
      rw [agrees]
      · have unknown := h.known i none (by rw [lacking]; rfl)
        rwa [Provider.named?, within i] at unknown
      · intro k named
        obtain rfl := distinct k i named
        exact ⟨fun inner => later (inner.subset List.mem_cons_self), fun mem => (later mem).elim⟩
    · exact l.behind i j lists informed (pair_sublist_of_not_mem before mem)

theorem lost_step (i j : ι) (overtaken : Overtaken target i j (past ++ deeds.map (m, ·)))
    (stored : ∀ lists, Function.update stages m stage' j ≠ .informed lists)
    (alone : NoneLearnedSince target i (past ++ deeds.map (m, ·))) :
    s'.Lacks account (target i).name := by
  have overtaken := l.overtaken_before step overtaken stored
  obtain ⟨list, having⟩ := having_of_overtaken h l overtaken
  have unlearned := noneLearnedSince_before h step overtaken.mem alone
  have before (unstored : ∀ lists, stages m ≠ .informed lists) : s.Lacks account (target i).name := by
    refine l.lost i j overtaken (fun lists informed => ?_) unlearned
    by_cases same : j = m
    · exact unstored lists (same ▸ informed)
    · exact stored lists (by rw [Function.update_of_ne same]; exact informed)
  intro t index later' found
  have past' := Nat.le_trans step.later later'
  generalize here : stages m = stage at step
  have other (unknown : ∀ list, stage ≠ .having list) : m ≠ i := by
    rintro rfl
    exact unknown list (here.symm.trans having)
  cases step with
  | hit | miss | learn | create =>
    exact before (by rw [here]; exact fun _ => nofun) t index past' found
  | other _ _ cached =>
    rw [cached] at found
    exact before (by rw [here]; exact fun _ => Obtaining.ofFound_ne_informed) t index past' found
  | store later =>
    rw [within m, Cache.get?_set] at found
    split at found
    · cases found
      obtain ⟨front, meanwhile, rfl, -⟩ := h.waiting m _ here
      exact l.behind i m _ here (unlearned m (other fun _ => nofun) (by simp))
    · cases found
  | patch later =>
    rw [within m, Cache.get?_modify later'] at found
    obtain ⟨old, cached, rfl⟩ := Option.map_eq_some_iff.mp found
    have known := h.known m _ (by rw [here]; rfl)
    have named := (Provider.names_of_find? known).name
    rw [ListIndex.find?_insert_of_ne old fun same => other (fun _ => nofun) ?_]
    · exact before (by rw [here]; exact fun _ => nofun) t old past' cached
    · exact distinct _ _ (named.symm.trans same.symm)

theorem advance :
    Lagging target account (Function.update stages m stage') s' (past ++ deeds.map (m, ·)) where
  listed := l.listed_step step
  recent := l.recent_step step
  unmade := l.unmade_step h step
  behind := l.behind_step h step within distinct
  lost := l.lost_step h step within distinct

end

end Lagging

/-- At the end each program has its list, and between the turns all was kept in order. -/
theorem exists_coordinated {results : ι → Except Failure (NamedList × Bool)} {s s' : Scene}
    (within : ∀ i, (target i).account = account)
    (distinct : ∀ i j, (target i).name = (target j).name → i = j)
    (start : s.NamesTrue account fun _ => True)
    (turns : Turns Scene.serve (fun i => obtainList (target i)) s es results s') :
    ∃ stages, (∀ i, Proceeds (target i) (.done (results i)) (stages i)) ∧
      Coordinated target account stages s' es ∧ Lagging target account stages s' es := by
  rw [← List.nil_append es]
  refine turns.preserves (I := fun p s past => ∃ stages,
      (∀ i, Proceeds (target i) (p i) (stages i)) ∧
        Coordinated target account stages s past ∧ Lagging target account stages s past)
    ?_ ⟨_, fun i => proceeds_obtainList (target i), .start start, .start⟩
  rintro p s past i r next x es s' ⟨stages, proceeds, h, l⟩ asks answered
  have here := proceeds i
  rw [asks] at here
  obtain ⟨stage', step, rest⟩ := here s x es s' answered
  refine ⟨Function.update stages i stage', fun j => ?_, h.advance within distinct step,
    l.advance h step within distinct⟩
  by_cases same : j = i
  · subst same
    rw [Function.update_self, Function.update_self]
    exact rest
  · rw [Function.update_of_ne same, Function.update_of_ne same]
    exact proceeds j

/-- Whatever the order of the turns, each of the programs comes to a list that the provider then has
under the name, and under each name the cached index has what the provider has, unless the list of
the name was overtaken. One that was not is found from then on, and not created again. So the index
has every list of addresses that shares its name with no other and was not overtaken. Of two programs,
one has its list in the index exactly if that was not overtaken. -/
theorem obtainList_in_turns {results : ι → Except Failure (NamedList × Bool)} {s s' : Scene}
    (within : ∀ i, (target i).account = account)
    (distinct : ∀ i j, (target i).name = (target j).name → i = j)
    (start : s.NamesTrue account fun _ => True)
    (turns : Turns Scene.serve (fun i => obtainList (target i)) s es results s') :
    (s'.NamesTrue account fun name => ∀ i j, (target i).name = name → ¬ Overtaken target i j es) ∧
    (∀ i, ∃ list created, results i = .ok (list, created) ∧
      s'.provider.named? (target i) = some list ∧
      ((∀ j, ¬ Overtaken target i j es) → Sync.Ensures (obtainList (target i)) s' fun es reply _ =>
        (∀ m ∈ es, ¬ m.Mutates) ∧ ((∀ m ∈ es, ¬ m.Fails) → reply = .ok (list, false)))) ∧
    ∀ t index, s'.now ≤ t → s'.caches.indexes.get? t account = some index →
      (∀ list ∈ s'.provider.listsOf account, list.holdsAddresses →
        (∀ l ∈ s'.provider.listsOf account, l.holdsAddresses → l.name = list.name → l = list) →
        (∀ i j, (target i).name = list.name → ¬ Overtaken target i j es) → list ∈ index.lists) ∧
      ∀ i j, (∀ k, k = i ∨ k = j) →
        (index.find? (target i).name = s'.provider.named? (target i) ↔
          ¬ Overtaken target i j es) := by
  obtain ⟨stages, done, h, l⟩ := exists_coordinated within distinct start turns
  have having (i : ι) : ∃ list created, stages i = .having list ∧ results i = .ok (list, created) :=
    done i
  have settled (i : ι) : (∀ list, stages i ≠ .made list) ∧ ∀ lists, stages i ≠ .informed lists := by
    obtain ⟨list, created, having, -⟩ := having i
    simp [having]
  have names := h.namesTrue fun i => (settled i).1
  have known (i : ι) : s'.provider.named? (target i) =
      (ListIndex.ofLists (s'.provider.listsOf account)).find? (target i).name := by
    rw [Provider.named?, within i]
  have own {i : ι} (fine : ∀ j, ¬ Overtaken target i j es) (k j : ι)
      (named : (target k).name = (target i).name) : ¬ Overtaken target k j es :=
    distinct k i named ▸ fine j
  refine ⟨names, fun i => ?_, fun t index later found => ⟨fun list mem holds sole fine => ?_, ?_⟩⟩
  · obtain ⟨list, created, having, replied⟩ := having i
    have named := h.known i (some list) (by rw [having]; rfl)
    refine ⟨list, created, replied, named, fun fine => ensures_obtainList_named ?_ named⟩
    intro t index later found
    rw [within i] at found
    rw [names t index later found _ (own fine), ← known, named]
  · have same := names t index later found list.name fine
    rw [ListIndex.find?_ofLists_of_sole mem holds sole] at same
    exact List.mem_of_find?_eq_some same
  · intro i j both
    obtain ⟨list, created, having', -⟩ := having i
    have named := h.known i (some list) (by rw [having']; rfl)
    refine ⟨fun same overtaken => ?_, fun fine => ?_⟩
    · have alone : NoneLearnedSince target i es := fun k other _ => by
        obtain rfl := (both k).resolve_left other
        exact overtaken.learned_before
      have lost := l.lost i j overtaken (settled j).2 alone t index later found
      rw [same, named] at lost
      cases lost
    · rw [known]
      refine names t index later found _ (own fun k overtaken => ?_)
      obtain rfl := (both k).resolve_left overtaken.ne.symm
      exact fine overtaken

def pair : Bool → ListTarget
  | false => { account := "acct", name := "hosts" }
  | true => { account := "acct", name := "guests" }

def pairInTurns (order : List Bool) (s : Scene) :
    (Bool → Sync (Except Failure (NamedList × Bool))) × List (Bool × Deed) × Scene :=
  inTurns Scene.serveAtOnce Sync.deeds order (fun i => obtainList (pair i)) s

theorem turns_pair {order : List Bool} {s : Scene}
    {results : Bool → Except Failure (NamedList × Bool)}
    (ends : ∀ i, ((pairInTurns order s).1 i).result? = some (results i)) :
    Turns Scene.serve (fun i => obtainList (pair i)) s (pairInTurns order s).2.1 results
      (pairInTurns order s).2.2 :=
  turns_inTurns Scene.serve_serveAtOnce order ends

theorem pair_distinct : ∀ i j, (pair i).name = (pair j).name → i = j := by decide

/-- Nothing is cached, and there are lists of other names and of another kind. -/
def stocked : Scene where
  now := 0
  provider := { lists := [⟨"acct", ⟨"r1", "routes", "", "redirect"⟩⟩,
    ⟨"acct", ⟨"s1", "spare", "", "ip"⟩⟩, ⟨"acct", ⟨"s2", "spare", "", "ip"⟩⟩] }
  caches := .empty 60000

def bare : Scene := ⟨0, {}, .empty 60000⟩

def worldOf (s : Scene) : World := { now := s.now, provider := s.provider, caches := s.caches }

theorem runs_worldOf {α : Type} {p : Sync α} {s : Scene} {a : α}
    (replied : ((worldOf s).run p).1 = a) :
    ∃ es, Sync.Runs p s es a ((worldOf s).run p).2.scene := by
  subst replied
  exact World.runs_run p (w := worldOf s) rfl

/-- Both find no index. In the first run, what the second learns before the first creates its list is
stored after that, and before the first changes the index. In the other run it is stored after the
first has changed the index, which then lacks that list, so that it is created once more. -/
theorem obtainList_in_turns_crossed :
    (∃ es results s', Turns Scene.serve (fun i => obtainList (pair i)) stocked es results s' ∧
      (∀ i, (pair i).account = "acct") ∧ (∀ i j, (pair i).name = (pair j).name → i = j) ∧
      stocked.NamesTrue "acct" (fun _ => True) ∧ (∀ i j, ¬ Overtaken pair i j es) ∧
      (s'.NamesTrue "acct" fun name => ∀ i j, (pair i).name = name → ¬ Overtaken pair i j es) ∧
      ∀ i, ∃ list created, results i = .ok (list, created) ∧
        s'.provider.named? (pair i) = some list ∧
        Sync.Ensures (obtainList (pair i)) s' fun es reply _ =>
          (∀ m ∈ es, ¬ m.Mutates) ∧ ((∀ m ∈ es, ¬ m.Fails) → reply = .ok (list, false))) ∧
    ∃ es results s', Turns Scene.serve (fun i => obtainList (pair i)) bare es results s' ∧
      bare.NamesTrue "acct" (fun _ => True) ∧ Overtaken pair false true es ∧
      ∃ index, s'.caches.indexes.get? s'.now "acct" = some index ∧
        index.find? "hosts" ≠ s'.provider.named? (pair false) ∧
        ∃ es' list s'', Sync.Runs (obtainList (pair false)) s' es' (.ok (list, true)) s'' := by
  have within : ∀ i, (pair i).account = "acct" := by decide
  have cold (s : Scene) (empty : s.caches = .empty 60000) : s.NamesTrue "acct" fun _ => True := by
    intro t index later found
    rw [empty] at found
    cases found
  let results : Bool → Except Failure (NamedList × Bool) := fun
    | false => .ok (⟨"list-1", "hosts", "", "ip"⟩, true)
    | true => .ok (⟨"list-2", "guests", "", "ip"⟩, true)
  constructor
  · let order := [false, true, false, false, true, false, true, false, true, false, true, true]
    have ends : ∀ i, ((pairInTurns order stocked).1 i).result? = some (results i) := by decide
    have fine : ∀ i j, ¬ Overtaken pair i j (pairInTurns order stocked).2.1 := by decide
    obtain ⟨names, obtained, -⟩ :=
      obtainList_in_turns within pair_distinct (cold _ rfl) (turns_pair ends)
    refine ⟨_, _, _, turns_pair ends, within, pair_distinct, cold _ rfl, fine, names, fun i => ?_⟩
    obtain ⟨list, created, replied, named, found⟩ := obtained i
    exact ⟨list, created, replied, named, found (fine i)⟩
  · let order := [true, true, false, false, false, false, false, false, true, true, true, true]
    have ends : ∀ i, ((pairInTurns order bare).1 i).result? = some (results i) := by decide
    have overtaken : Overtaken pair false true (pairInTurns order bare).2.1 := by decide
    obtain ⟨-, -, exact_of_found⟩ :=
      obtainList_in_turns within pair_distinct (cold _ rfl) (turns_pair ends)
    have found : (pairInTurns order bare).2.2.caches.indexes.get? (pairInTurns order bare).2.2.now
        "acct" = some ⟨[⟨"list-2", "guests", "", "ip"⟩]⟩ := by rfl
    have lacks := ((exact_of_found _ _ (Nat.le_refl _) found).2 false true (by decide)).not.mpr
      (not_not_intro overtaken)
    obtain ⟨es, run⟩ := runs_worldOf (s := (pairInTurns order bare).2.2)
      (p := obtainList (pair false)) (a := .ok (⟨"list-3", "hosts", "", "ip"⟩, true)) (by decide)
    exact ⟨_, _, _, turns_pair ends, cold _ rfl, overtaken, _, found, lacks, es, _, _, run⟩

/-- Two lists of the account have one name. -/
def doubled : Scene where
  now := 0
  provider := { lists := [⟨"acct", ⟨"a1", "hosts", "", "ip"⟩⟩, ⟨"acct", ⟨"a2", "hosts", "", "ip"⟩⟩] }
  caches := .empty 60000

/-- Of two lists of one name the index has one only, and when that is deleted a third is created. -/
theorem exists_index_lacks_doubled :
    ∃ es results s', Turns Scene.serve (fun i => obtainList (pair i)) doubled es results s' ∧
      doubled.NamesTrue "acct" (fun _ => True) ∧ (∀ i j, ¬ Overtaken pair i j es) ∧
      ∃ list index, list ∈ s'.provider.listsOf "acct" ∧ list.holdsAddresses ∧
        s'.caches.indexes.get? s'.now "acct" = some index ∧ list ∉ index.lists ∧
        ∃ es' list' s'', Sync.Runs
          (do let _ ← deleteList (pair false) "a2"; obtainList (pair false)) s' es'
            (.ok (list', true)) s'' ∧ list ∈ s''.provider.listsOf "acct" := by
  let order := [false, false, false, true, true, true, true, true]
  let results : Bool → Except Failure (NamedList × Bool) := fun
    | false => .ok (⟨"a2", "hosts", "", "ip"⟩, false)
    | true => .ok (⟨"list-1", "guests", "", "ip"⟩, true)
  have ends : ∀ i, ((pairInTurns order doubled).1 i).result? = some (results i) := by decide
  obtain ⟨es, run⟩ := runs_worldOf (s := (pairInTurns order doubled).2.2)
    (p := do let _ ← deleteList (pair false) "a2"; obtainList (pair false))
    (a := .ok (⟨"list-2", "hosts", "", "ip"⟩, true)) (by decide)
  refine ⟨_, _, _, turns_pair ends, (fun _ _ _ found => nomatch found), by decide, ?_⟩
  refine ⟨⟨"a1", "hosts", "", "ip"⟩,
    ⟨[⟨"a2", "hosts", "", "ip"⟩, ⟨"list-1", "guests", "", "ip"⟩]⟩, by decide, rfl, by decide,
    by decide, es, _, _, run, by decide⟩

end Directory

end AddressSync
