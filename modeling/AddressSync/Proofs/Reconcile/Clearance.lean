import AddressSync.Proofs.Reconcile.Tidiness
import AddressSync.Proofs.Surroundings.Simulated

/-! What retiring a list comes to, whatever is cached before and whichever calls fail: what its report
says of the provider, that everything else there stays as it is, and that nothing is cached of the
list once it was looked for. -/

namespace AddressSync

open Sync Simulation Directory

namespace Simulation.Provider

variable {p p' p'' : Provider} {id account : String}

structure AsideFromList (id : String) (p p' : Provider) : Prop where
  zones : p'.zones = p.zones
  records : p'.records = p.records
  lists : p'.lists = p.lists ∨ p'.lists = p.lists.filter (·.list.id ≠ id)
  items : ∀ other, other ≠ id → p'.itemsOf other = p.itemsOf other

theorem asideFromList_self (id : String) (p : Provider) : p.AsideFromList id p :=
  ⟨rfl, rfl, .inl rfl, fun _ _ => rfl⟩

theorem AsideFromList.trans (first : p.AsideFromList id p') (rest : p'.AsideFromList id p'') :
    p.AsideFromList id p'' where
  zones := rest.zones.trans first.zones
  records := rest.records.trans first.records
  lists := by
    rcases first.lists with kept | gone
    · rw [← kept]
      exact rest.lists
    · rcases rest.lists with kept | gone'
      · exact .inr (kept.trans gone)
      · rw [gone', gone, List.filter_filter]
        simp only [Bool.and_self, or_true]
  items other ne := (rest.items other ne).trans (first.items other ne)

theorem asideFromList_deleteList : p.AsideFromList id (p.perform (.deleteList account id)).2 where
  zones := rfl
  records := rfl
  lists := .inr rfl
  items other ne := by rw [itemsOf_deleteList, if_neg ne]

theorem asideFromList_replaceItems {blocks : List Block} :
    p.AsideFromList id (p.perform (.replaceItems account id blocks)).2 where
  zones := (changeItems_frame ..).1
  records := (changeItems_frame ..).2.1
  lists := .inl (changeItems_frame ..).2.2.1
  items other ne := by rw [itemsOf_replaceItems, if_neg ne]

end Simulation.Provider

namespace Directory

open Scene

theorem ensures_fetch_live {c : Call} {ν : Type} {cached : Nat → Caches → Option ν} {hit : Sync Unit}
    {read : c.Reply → ν} {store : ν → Nat → Caches → Caches} {s : Scene}
    (reads : c.isMutation = false) (missed : ∀ t, s.now ≤ t → cached t s.caches = none) :
    Sync.Ensures (fetch c cached hit read store) s fun es reply s' => ∃ answer : Except Failure c.Reply,
      s.provider.Ends c answer s.provider ∧ es = [.called c answer s.provider s.provider] ∧
        reply = answer.map read ∧ s.now ≤ s'.now ∧ s'.provider = s.provider ∧
          s'.caches = match answer with
            | .ok x => store (read x) s'.now s.caches
            | .error _ => s.caches := by
  refine ensures_look_iff.mpr fun t later => ?_
  dsimp only
  rw [missed t later]
  refine ensures_call_iff.mpr fun t' answer p later' ends => ?_
  obtain rfl := ends.of_reads reads
  have after := Nat.le_trans later later'
  cases answer with
  | error e => exact Program.ensures_pure_iff.mpr ⟨_, ends, rfl, rfl, after, rfl, rfl⟩
  | ok x =>
    refine ensures_revise_iff.mpr fun t'' later'' => Program.ensures_pure_iff.mpr ?_
    exact ⟨_, ends, rfl, rfl, Nat.le_trans after later'', rfl, rfl⟩

end Directory

namespace Scene

structure Unlisted (account id : String) (s s' : Scene) : Prop where
  later : s.now ≤ s'.now
  index : ∀ t index, s'.now ≤ t → s'.caches.indexes.get? t account = some index →
    ∀ l ∈ index.lists, l.id ≠ id
  others : ∀ other, other ≠ account → ∀ t, s'.now ≤ t →
    s'.caches.indexes.get? t other = s.caches.indexes.get? t other

structure Forgotten (account id : String) (s s' : Scene) : Prop
    extends s.Unlisted account id s' where
  items : ∀ e ∈ s'.caches.items.entries, e.key ≠ id

theorem Unlisted.since {s₀ s s' : Scene} {account id : String} (h : s.Unlisted account id s')
    (later : s₀.now ≤ s.now) (others : ∀ other, other ≠ account → ∀ t, s.now ≤ t →
      s.caches.indexes.get? t other = s₀.caches.indexes.get? t other) :
    s₀.Unlisted account id s' where
  later := Nat.le_trans later h.later
  index := h.index
  others other ne t after :=
    (h.others other ne t after).trans (others other ne t (Nat.le_trans h.later after))

end Scene

namespace Directory

open Scene

variable {s s₀ : Scene} {target : ListTarget} {account id : String}

theorem ensures_findList_live (missed : ∀ t, s.now ≤ t → s.caches.indexes.get? t target.account = none) :
    Sync.Ensures (findList target) s fun es reply s' =>
      s.now ≤ s'.now ∧ s'.provider = s.provider ∧
      (∀ other, other ≠ target.account → ∀ t, s'.now ≤ t →
        s'.caches.indexes.get? t other = s.caches.indexes.get? t other) ∧
      ∃ answer : Except Failure (List NamedList),
        es = [.called (.listLists target.account) answer s.provider s.provider] ∧
          (∀ lists, answer = .ok lists → lists = s.provider.listsOf target.account) ∧
          (answer.isOk = false → ∀ t, s'.now ≤ t →
            s'.caches.indexes.get? t target.account = none) ∧
            reply = answer.map fun lists => (ListIndex.ofLists lists).find? target.name := by
  refine (ensures_fetch_live rfl missed).bind fun es reply s' read => ?_
  obtain ⟨answer, ends, rfl, rfl, later, provider, caches⟩ := read
  have others (other : String) (ne : other ≠ target.account) (t : Nat) (after : s'.now ≤ t) :
      s'.caches.indexes.get? t other = s.caches.indexes.get? t other := by
    rw [caches]
    cases answer with
    | error e => rfl
    | ok lists => exact Cache.get?_set_of_ne ne after
  have live (lists : List NamedList) (same : answer = .ok lists) :
      lists = s.provider.listsOf target.account := by
    rw [same] at ends
    exact (Except.ok.inj ends.of_ok.1).symm
  cases answer with
  | error e =>
    refine Program.ensures_pure_iff.mpr ⟨later, provider, others, _, rfl, live, ?_, rfl⟩
    intro _ t after
    rw [caches]
    exact missed t (Nat.le_trans later after)
  | ok lists =>
    exact Program.ensures_pure_iff.mpr ⟨later, provider, others, _, rfl, live, nofun, rfl⟩

theorem ensures_deleteList_forgets (target : ListTarget) (id : String) (s : Scene) :
    Sync.Ensures (deleteList target id) s fun es reply s' =>
      es = [.called (.deleteList target.account id) reply s.provider s'.provider] ∧
        s.provider.Ends (.deleteList target.account id) reply s'.provider ∧
          s.Forgotten target.account id s' := by
  refine ensures_call_iff.mpr fun t reply p later ends => ?_
  have erased : ∀ e ∈ (s.caches.items.erase id).entries, e.key ≠ id :=
    fun e mem => of_decide_eq_true (List.mem_filter.mp mem).2
  cases reply with
  | ok x =>
    refine ensures_revise_iff.mpr fun t₁ later₁ => ensures_revise_iff.mpr fun t₂ later₂ => ?_
    have after := Nat.le_trans later (Nat.le_trans later₁ later₂)
    refine Program.ensures_pure_iff.mpr
      ⟨rfl, ends, ⟨after, fun t' index after found l mem => ?_, ?_⟩, erased⟩
    on_goal 2 => exact fun other ne t' after =>
      Cache.get?_modify_of_ne ne (Nat.le_trans later₂ after)
    have dropped := (Cache.get?_modify (Nat.le_trans later₂ after)).symm.trans found
    obtain ⟨held, _, rfl⟩ := Option.map_eq_some_iff.mp dropped
    exact of_decide_eq_true (List.mem_filter.mp mem).2
  | error e =>
    refine ensures_revise_iff.mpr fun t₁ later₁ => ensures_revise_iff.mpr fun t₂ later₂ => ?_
    have after := Nat.le_trans later (Nat.le_trans later₁ later₂)
    refine Program.ensures_pure_iff.mpr
      ⟨rfl, ends, ⟨after, fun t' index after found => ?_, ?_⟩, erased⟩
    on_goal 2 => exact fun other ne t' after => Cache.get?_erase_of_ne ne
    cases Cache.get?_erase.symm.trans found

theorem ensures_replaceItems_forgets (blocks : List Block)
    (forgotten : s₀.Forgotten target.account id s) :
    Sync.Ensures (replaceItems target id blocks) s fun es reply s' =>
      es = [.called (.replaceItems target.account id blocks) reply s.provider s'.provider] ∧
        s.provider.Ends (.replaceItems target.account id blocks) reply s'.provider ∧
          s₀.Forgotten target.account id s' := by
  refine ensures_call_iff.mpr fun t reply p later ends => ?_
  refine ensures_revise_iff.mpr fun t' later' => Program.ensures_pure_iff.mpr ?_
  have passed := Nat.le_trans later later'
  refine ⟨rfl, ends, ⟨Nat.le_trans forgotten.later passed, ?_, ?_⟩, fun e mem => ?_⟩
  · exact fun t'' index after => forgotten.index t'' index (Nat.le_trans passed after)
  · exact fun other ne t'' after => forgotten.others other ne t'' (Nat.le_trans passed after)
  · exact of_decide_eq_true (List.mem_filter.mp mem).2

end Directory

namespace Reconcile

open Scene

variable {s s' : Scene} {target : ListTarget} {es : List Moment} {outcome : Outcome}
  {report : Report}

/-- The ways in which a retirement goes on that is not stopped: the lists of the account cannot be
read, there is none of the name, or it is deleted, or it is to be emptied since that failed. -/
inductive Retired (target : ListTarget) (s : Scene) : List Moment → Outcome → Scene → Prop
  | unread (e : Failure) (s' : Scene) (same : s'.provider = s.provider)
    (unlisted : ∀ id, s.Unlisted target.account id s') :
    Retired target s [.called (.listLists target.account) (.error e) s.provider s.provider] .failed s'
  | missing (s' : Scene) (same : s'.provider = s.provider) (none : s.provider.named? target = none) :
    Retired target s [.called (.listLists target.account) (.ok (s.provider.listsOf target.account))
      s.provider s.provider] .unchanged s'
  | deleted (l : NamedList) (s' : Scene) (named : s.provider.named? target = some l)
    (ends : s.provider.Ends (.deleteList target.account l.id) (.ok ()) s'.provider)
    (forgotten : s.Forgotten target.account l.id s') :
    Retired target s [.called (.listLists target.account) (.ok (s.provider.listsOf target.account))
        s.provider s.provider,
      .called (.deleteList target.account l.id) (.ok ()) s.provider s'.provider] .updated s'
  | replaced (l : NamedList) (e : Failure) (reply : Except Failure Unit) (p : Provider) (s' : Scene)
    (named : s.provider.named? target = some l)
    (ends : s.provider.Ends (.deleteList target.account l.id) (.error e) p)
    (ends' : p.Ends (.replaceItems target.account l.id []) reply s'.provider)
    (forgotten : s.Forgotten target.account l.id s') :
    Retired target s [.called (.listLists target.account) (.ok (s.provider.listsOf target.account))
        s.provider s.provider,
      .called (.deleteList target.account l.id) (.error e) s.provider p,
      .called (.replaceItems target.account l.id []) reply p s'.provider]
      (if reply.isOk then .updating else .failed) s'

theorem ensures_retireFrom_ways {s₁ : Scene} (same : s₁.provider = s.provider)
    (later : s.now ≤ s₁.now) (others : ∀ other, other ≠ target.account → ∀ t, s₁.now ≤ t →
      s₁.caches.indexes.get? t other = s.caches.indexes.get? t other)
    {answer : Except Failure (List NamedList)}
    (live : ∀ lists, answer = .ok lists → lists = s.provider.listsOf target.account)
    (unlisted : answer.isOk = false → ∀ t, s₁.now ≤ t →
      s₁.caches.indexes.get? t target.account = none) :
    Sync.Ensures
      (retireFrom target (answer.map fun lists => (ListIndex.ofLists lists).find? target.name)) s₁
      fun es report s' => ∃ outcome, report = ⟨.list target.print, outcome, false⟩ ∧
        Retired target s
          (.called (.listLists target.account) answer s.provider s.provider :: es) outcome s' := by
  cases answer with
  | error e =>
    refine ensures_log_iff.mpr (Program.ensures_pure_iff.mpr ⟨_, rfl, .unread e s₁ same ?_⟩)
    refine fun id => ⟨later, fun t index after found => ?_, others⟩
    cases (unlisted rfl t after).symm.trans found
  | ok lists =>
    obtain rfl := live lists rfl
    change Sync.Ensures (retireFrom target (.ok (s.provider.named? target))) s₁ _
    cases named : s.provider.named? target with
    | none =>
      exact ensures_log_iff.mpr (Program.ensures_pure_iff.mpr ⟨_, rfl, .missing s₁ same named⟩)
    | some l =>
      refine (ensures_deleteList_forgets target l.id s₁).bind fun es reply s₂ deleted => ?_
      obtain ⟨rfl, ends, forgotten⟩ := deleted
      rw [same] at ends ⊢
      have forgotten : s.Forgotten target.account l.id s₂ :=
        ⟨forgotten.toUnlisted.since later others, forgotten.items⟩
      cases reply with
      | ok x =>
        refine ensures_log_iff.mpr (Program.ensures_pure_iff.mpr ⟨_, rfl, ?_⟩)
        exact .deleted l s₂ named ends forgotten
      | error e =>
        refine ensures_log_iff.mpr ?_
        refine (ensures_replaceItems_forgets [] forgotten).bind fun es reply s' emptied => ?_
        obtain ⟨rfl, ends', forgotten⟩ := emptied
        have replaced := Retired.replaced l e reply _ s' named ends ends' forgotten
        cases reply with
        | ok x | error e' =>
          exact ensures_log_iff.mpr (Program.ensures_pure_iff.mpr ⟨_, rfl, replaced⟩)

theorem ensures_retire_ways (target : ListTarget) (s : Scene) :
    Sync.Ensures (retire target) s fun es report s' => es = [.stopAsked true] ∨
      ∃ es' outcome, es = .stopAsked false :: es' ∧ report = ⟨.list target.print, outcome, false⟩ ∧
        Retired target s es' outcome s' := by
  rw [retire_eq]
  refine ensures_stopRequested_iff.mpr fun stop => ?_
  cases stop with
  | true => exact Program.ensures_pure_iff.mpr (.inl rfl)
  | false =>
    refine ensures_revise_iff.mpr fun t later => ?_
    -- The index was dropped, so that nothing that was cached of it can be found.
    refine (ensures_findList_live fun t' _ => Cache.get?_erase).bind fun es reply s₁ looked => ?_
    obtain ⟨later', same, others, answer, rfl, live, unlisted, rfl⟩ := looked
    refine (ensures_retireFrom_ways (s := s) same (Nat.le_trans later later') ?_ live unlisted).mono ?_
    · exact fun other ne t' after => (others other ne t' after).trans (Cache.get?_erase_of_ne ne)
    · rintro es report s' ⟨outcome, rfl, retired⟩
      exact .inr ⟨_, outcome, rfl, rfl, retired⟩

/-- What a retirement makes of the provider and leaves in the caches, by what it reports. -/
structure Retirement (target : ListTarget) (s : Scene) (es : List Moment) (outcome : Outcome)
    (s' : Scene) : Prop where
  noop : outcome = .unchanged ↔
    ∃ lists, .called (.listLists target.account) (.ok lists) s.provider s.provider ∈ es ∧
      ∀ l ∈ lists, l.holdsAddresses → l.name ≠ target.name
  untouched : outcome = .unchanged → ∀ m ∈ es, ¬ m.Mutates
  updated : outcome = .updated → ¬ s'.provider.HasList target ∧
    ∃ l, s.provider.Names target l ∧ ∀ held ∈ s'.provider.lists, held.list.id ≠ l.id
  updating : outcome = .updating → ∃ l e p, s.provider.Names target l ∧
    .called (.deleteList target.account l.id) (.error e) s.provider p ∈ es ∧
      .called (.replaceItems target.account l.id []) (.ok ()) p s'.provider ∈ es ∧
        s'.provider.itemsOf l.id = []
  failed : outcome = .failed →
    (∃ e, .called (.listLists target.account) (.error e) s.provider s.provider ∈ es) ∨
      ∃ l e e' p, s.provider.Names target l ∧
        .called (.deleteList target.account l.id) (.error e) s.provider p ∈ es ∧
          .called (.replaceItems target.account l.id []) (.error e') p s'.provider ∈ es
  aside : s'.provider = s.provider ∨
    ∃ l, s.provider.Names target l ∧ s.provider.AsideFromList l.id s'.provider
  unlisted : ∀ l, s.provider.Names target l → s.Unlisted target.account l.id s'
  unheld : (∃ lists, .called (.listLists target.account) (.ok lists) s.provider s.provider ∈ es) →
    ∀ l, s.provider.Names target l → ∀ e ∈ s'.caches.items.entries, e.key ≠ l.id

theorem Retired.listed {lists : List NamedList} (h : Retired target s es outcome s')
    (mem : .called (.listLists target.account) (.ok lists) s.provider s.provider ∈ es) :
    lists = s.provider.listsOf target.account := by
  cases h with
  | unread => simp at mem
  | missing | deleted | replaced => simpa using mem

theorem Retired.retirement (h : Retired target s es outcome s')
    (distinct : ListIndex.NamesDistinct (s.provider.listsOf target.account)) :
    Retirement target s es outcome s' := by
  have some {l : NamedList} (names : s.provider.Names target l) :
      ¬ ∃ lists, .called (.listLists target.account) (.ok lists) s.provider s.provider ∈ es ∧
        ∀ l ∈ lists, l.holdsAddresses → l.name ≠ target.name := by
    rintro ⟨lists, mem, none⟩
    obtain rfl := h.listed mem
    exact none l names.mem names.holds names.name
  cases h with
  | unread e s' same unlisted =>
    have unread {lists : List NamedList} :
        ¬ .called (.listLists target.account) (.ok lists) s.provider s.provider ∈
          [Moment.called (.listLists target.account) (.error e) s.provider s.provider] := by simp
    exact {
      noop := iff_of_false nofun fun ⟨_, mem, _⟩ => unread mem
      untouched := nofun
      updated := nofun
      updating := nofun
      failed _ := .inl ⟨e, List.mem_singleton_self _⟩
      aside := .inl same
      unlisted l _ := unlisted l.id
      unheld := fun ⟨_, mem⟩ => absurd mem unread }
  | missing s' same none =>
    have absent := Provider.not_hasList_of_find? distinct none
    refine ⟨iff_of_true rfl ⟨_, List.mem_singleton_self _, ?_⟩, fun _ => ?_, nofun, nofun, nofun,
      .inl same, fun l names => absurd ⟨l, names⟩ absent, fun _ l names => absurd ⟨l, names⟩ absent⟩
    · exact fun l mem holds name => absent ⟨l, mem, holds, name⟩
    · exact List.forall_mem_singleton.mpr nofun
  | deleted l s' named ends forgotten =>
    have names := Provider.names_of_find? named
    have forgotten (l' : NamedList) (names' : s.provider.Names target l') :
        s.Forgotten target.account l'.id s' := by
      rwa [names.unique distinct names']
    obtain ⟨_, after⟩ := ends.of_ok
    refine ⟨iff_of_false nofun (some names), nofun, fun _ => ?_, nofun, nofun, ?_,
      fun l' names' => (forgotten l' names').toUnlisted, fun _ l' names' => (forgotten l' names').items⟩
    · rw [after]
      refine ⟨names.not_hasList_deleteList distinct, l, names, fun held mem => ?_⟩
      exact of_decide_eq_true (List.mem_filter.mp mem).2
    · rw [after]
      exact .inr ⟨l, names, Provider.asideFromList_deleteList⟩
  | replaced l e reply p s' named ends ends' forgotten =>
    have names := Provider.names_of_find? named
    have aside : s.provider.AsideFromList l.id s'.provider := by
      refine (ends.preserves (Provider.asideFromList_self l.id _)
        Provider.asideFromList_deleteList).trans ?_
      exact ends'.preserves (Provider.asideFromList_self l.id _) Provider.asideFromList_replaceItems
    have forgotten (l' : NamedList) (names' : s.provider.Names target l') :
        s.Forgotten target.account l'.id s' := by
      rwa [names.unique distinct names']
    refine ⟨?_, ?_, ?_, ?_, ?_, .inr ⟨l, names, aside⟩,
      fun l' names' => (forgotten l' names').toUnlisted, fun _ l' names' => (forgotten l' names').items⟩
    · cases reply <;> exact iff_of_false nofun (some names)
    · cases reply <;> exact nofun
    · cases reply <;> exact nofun
    · cases reply with
      | error e' => exact nofun
      | ok x =>
        refine fun _ => ⟨l, e, p, names, by simp, by simp, ?_⟩
        rw [ends'.of_ok.2, Provider.itemsOf_replaceItems, if_pos rfl]
        rfl
    · cases reply with
      | ok x => exact nofun
      | error e' => exact fun _ => .inr ⟨l, e, e', p, names, by simp, by simp⟩

/-- What retiring a list reports is true of the provider, whatever was cached and whichever calls
fail, with or without effect: the list is missing, gone or empty, or the lists could not be read, or
the list could be neither deleted nor emptied. All else at the provider stays as it was. Afterwards
no list of the identifier is cached as one of the account, and no items of it once the lists were
read. -/
theorem retire_settles
    (distinct : ListIndex.NamesDistinct (s.provider.listsOf target.account))
    (run : Sync.Runs (retire target) s (.stopAsked false :: es) report s') :
    ∃ outcome, report = ⟨.list target.print, outcome, false⟩ ∧
      Retirement target s es outcome s' := by
  rcases ensures_retire_ways target s _ _ _ run with stopped | ⟨es, outcome, same, rfl, retired⟩
  · cases stopped
  · obtain rfl := (List.cons.inj same).2
    exact ⟨outcome, rfl, retired.retirement distinct⟩

def clinging : World where
  provider.lists := [⟨"acct", ⟨"list-1", "hosts", "", "ip"⟩⟩, ⟨"acct", ⟨"list-2", "guests", "", "ip"⟩⟩]
  provider.items := [("list-1", [⟨"item-3", (Address.v4 1).listedBlock⟩])]
  provider.made := 3
  faults := [⟨.deleteList, none, some 1, .http "in use", false⟩]
  caches := { Caches.empty 60000 with
    indexes := (Caches.empty 60000).indexes.set 0 "acct" ⟨[⟨"list-0", "hosts", "", "ip"⟩]⟩ }

def hosts : ListTarget := ⟨"acct", "hosts", "", ""⟩

theorem retire_settles_clinging :
    ListIndex.NamesDistinct (clinging.provider.listsOf "acct") ∧ ∃ es s',
      Sync.Runs (retire hosts) clinging.scene (.stopAsked false :: es)
        ⟨.list hosts.print, .updating, false⟩ s' ∧
          Retirement hosts clinging.scene es .updating s' := by
  have distinct : ListIndex.NamesDistinct (clinging.provider.listsOf "acct") := by
    unfold ListIndex.NamesDistinct
    decide
  have run := World.runs_trace (retire hosts) (w := clinging) rfl
  have reported : (clinging.run (retire hosts)).1 = ⟨.list hosts.print, .updating, false⟩ := by decide
  have begun : clinging.trace (retire hosts) =
      .stopAsked false :: (clinging.trace (retire hosts)).tail := rfl
  rw [reported, begun] at run
  obtain ⟨outcome, same, settled⟩ := retire_settles distinct run
  cases same
  exact ⟨distinct, _, _, run, settled⟩

def relocated : World where
  provider.lists := [⟨"acct", ⟨"list-1", "hosts", "", "ip"⟩⟩]
  caches := { Caches.empty 60000 with
    indexes := (Caches.empty 60000).indexes.set 0 "home" ⟨[⟨"list-1", "hosts", "", "ip"⟩]⟩ }

def confused : World where
  provider.lists := [⟨"acct", ⟨"list-1", "hosts", "", "ip"⟩⟩, ⟨"home", ⟨"list-1", "guests", "", "ip"⟩⟩]
  caches := Caches.empty 60000

def shrouded : World where
  provider.lists := [⟨"acct", ⟨"list-1", "hosts", "", "ip"⟩⟩]
  faults := [⟨.listLists, none, some 1, .http "timeout", false⟩]
  caches := { Caches.empty 60000 with items := (Caches.empty 60000).items.set 0 "list-1" [] }

/-- What another account is thought to have is not forgotten, although the list is gone; a list of
another account goes too if it has the identifier; and what a list holds is not forgotten before the
list is found. -/
theorem retire_astray :
    (ListIndex.NamesDistinct (relocated.provider.listsOf "acct") ∧ ∃ es s',
      Sync.Runs (retire hosts) relocated.scene (.stopAsked false :: es)
        ⟨.list hosts.print, .updated, false⟩ s' ∧ s'.provider.lists = [] ∧
          s'.caches.indexes.get? s'.now "home" = some ⟨[⟨"list-1", "hosts", "", "ip"⟩]⟩) ∧
    (ListIndex.NamesDistinct (confused.provider.listsOf "acct") ∧
      ListIndex.NamesDistinct (confused.provider.listsOf "home") ∧ ∃ es s',
        Sync.Runs (retire hosts) confused.scene (.stopAsked false :: es)
          ⟨.list hosts.print, .updated, false⟩ s' ∧ s'.provider.lists = []) ∧
    ListIndex.NamesDistinct (shrouded.provider.listsOf "acct") ∧ ∃ es s',
      Sync.Runs (retire hosts) shrouded.scene (.stopAsked false :: es)
        ⟨.list hosts.print, .failed, false⟩ s' ∧
          s'.caches.items.get? s'.now "list-1" = some [] := by
  have names (w : World) (account : String)
      (distinct : (((w.provider.listsOf account).filter NamedList.holdsAddresses).map
        NamedList.name).Nodup) : ListIndex.NamesDistinct (w.provider.listsOf account) := distinct
  have runs (w : World) (outcome : Outcome) (undisturbed : w.Undisturbed)
      (reported : (w.run (retire hosts)).1 = ⟨.list hosts.print, outcome, false⟩)
      (begun : w.trace (retire hosts) = .stopAsked false :: (w.trace (retire hosts)).tail) :
      ∃ es, Sync.Runs (retire hosts) w.scene (.stopAsked false :: es)
        ⟨.list hosts.print, outcome, false⟩ (w.run (retire hosts)).2.scene := by
    have run := World.runs_trace (retire hosts) undisturbed
    rw [reported, begun] at run
    exact ⟨_, run⟩
  refine ⟨?_, ?_, ?_⟩
  · obtain ⟨es, run⟩ := runs relocated .updated rfl (by decide) rfl
    exact ⟨names relocated "acct" (by decide), es, _, run, by decide, by decide⟩
  · obtain ⟨es, run⟩ := runs confused .updated rfl (by decide) rfl
    refine ⟨names confused "acct" (by decide), names confused "home" (by decide), es, _, run, ?_⟩
    decide
  · obtain ⟨es, run⟩ := runs shrouded .failed rfl (by decide) rfl
    exact ⟨names shrouded "acct" (by decide), es, _, run, by decide⟩

end Reconcile

end AddressSync
