import AddressSync.Cache

/-! What is true of all live entries of a cache, and how each operation keeps it true. An entry that
has expired need not be true of anything; as no operation brings one back to life, time alone never
makes such a statement false. -/

namespace AddressSync.Cache

variable {κ ν : Type} [DecidableEq κ] {c : Cache κ ν} {now t : Nat} {key other : κ}
  {P Q : κ → ν → Prop}

def Holds (c : Cache κ ν) (now : Nat) (P : κ → ν → Prop) : Prop :=
  ∀ e ∈ c.entries, e.isLive now → P e.key e.value

omit [DecidableEq κ] in
theorem Entry.isLive_of_later {e : Entry κ ν} (later : now ≤ t) (live : e.isLive t) :
    e.isLive now := by
  simp only [Entry.isLive, decide_eq_true_eq] at live ⊢
  omega

omit [DecidableEq κ] in
theorem Holds.later (h : c.Holds now P) (later : now ≤ t) : c.Holds t P :=
  fun e mem live => h e mem (Entry.isLive_of_later later live)

omit [DecidableEq κ] in
theorem Holds.mono (h : c.Holds now P)
    (weaken : ∀ e ∈ c.entries, P e.key e.value → Q e.key e.value) : c.Holds now Q :=
  fun e mem live => weaken e mem (h e mem live)

theorem exists_entry_of_get? {v : ν} (found : c.get? now key = some v) :
    ∃ e ∈ c.entries, e.key = key ∧ e.value = v ∧ e.isLive now := by
  obtain ⟨e, first, rfl⟩ := Option.map_eq_some_iff.mp found
  have test := List.find?_some first
  simp only [Bool.and_eq_true, decide_eq_true_eq] at test
  exact ⟨e, List.mem_of_find?_eq_some first, test.1, rfl, test.2⟩

theorem Holds.get? {v : ν} (h : c.Holds now P) (found : c.get? now key = some v) : P key v := by
  obtain ⟨e, mem, rfl, rfl, live⟩ := exists_entry_of_get? found
  exact h e mem live

omit [DecidableEq κ] in
theorem holds_clear : c.clear.Holds now P := by
  intro e mem
  cases mem

theorem Holds.erase (h : c.Holds now P)
    (others : ∀ e ∈ c.entries, e.key ≠ key → P e.key e.value → Q e.key e.value) :
    (c.erase key).Holds now Q := by
  intro e mem live
  obtain ⟨mem, other⟩ := List.mem_filter.mp mem
  exact others e mem (of_decide_eq_true other) (h e mem live)

theorem mem_set {v : ν} {e : Entry κ ν} (mem : e ∈ (c.set now key v).entries) :
    e ∈ c.entries ∧ e.key ≠ key ∨ e = ⟨key, v, now + c.lifetime⟩ := by
  simp only [Cache.set, Cache.erase, Cache.sweep, List.mem_append, List.mem_filter,
    List.mem_singleton, decide_eq_true_eq] at mem
  exact mem.imp_left fun old => ⟨old.1.1, old.2⟩

theorem Holds.replace {v : ν} (h : c.Holds now P)
    (others : ∀ e ∈ c.entries, e.key ≠ key → P e.key e.value → Q e.key e.value) (fresh : Q key v) :
    (c.set now key v).Holds now Q := by
  intro e mem live
  rcases mem_set mem with ⟨mem, other⟩ | rfl
  · exact others e mem other (h e mem live)
  · exact fresh

theorem Holds.set {v : ν} (h : c.Holds now P) (fresh : P key v) : (c.set now key v).Holds now P :=
  h.replace (fun _ _ _ said => said) fresh

theorem Holds.modify {change : ν → ν} (h : c.Holds now P)
    (others : ∀ e ∈ c.entries, e.key ≠ key → P e.key e.value → Q e.key e.value)
    (changed : ∀ v, P key v → Q key (change v)) : (c.modify now key change).Holds now Q := by
  intro e mem live
  simp only [Cache.modify, Cache.sweep, List.mem_map, List.mem_filter] at mem
  obtain ⟨e, ⟨mem, alive⟩, rfl⟩ := mem
  have before := h e mem alive
  by_cases same : e.key = key
  · rw [if_pos same]
    subst same
    exact changed _ before
  · rw [if_neg same]
    exact others e mem same before

theorem get?_erase : (c.erase key).get? now key = none := by
  refine Option.map_eq_none_iff.mpr (List.find?_eq_none.mpr fun e mem => ?_)
  have other : e.key ≠ key := of_decide_eq_true (List.mem_filter.mp mem).2
  simp [other]

theorem isSome_get?_iff : (c.get? now key).isSome ↔ ∃ e ∈ c.entries, e.key = key ∧ e.isLive now := by
  simp [Cache.get?]

theorem get?_eq_none_of_later (missing : c.get? now key = none) (later : now ≤ t) :
    c.get? t key = none := by
  refine Option.not_isSome_iff_eq_none.mp fun found => ?_
  obtain ⟨e, mem, here, live⟩ := isSome_get?_iff.mp found
  have found : (c.get? now key).isSome :=
    isSome_get?_iff.mpr ⟨e, mem, here, Entry.isLive_of_later later live⟩
  rw [missing] at found
  cases found

theorem get?_set {v : ν} :
    (c.set now key v).get? t key = if t < now + c.lifetime then some v else none := by
  have others : ((c.sweep now).erase key).entries.find? (fun e => e.key = key && e.isLive t) = none := by
    refine List.find?_eq_none.mpr fun e mem => ?_
    have other : e.key ≠ key := of_decide_eq_true (List.mem_filter.mp mem).2
    simp [other]
  rw [Cache.get?, Cache.set, List.find?_append, others, Option.none_or, List.find?_singleton]
  simp only [decide_true, Bool.true_and, Entry.isLive, decide_eq_true_eq]
  split <;> rfl

theorem get?_modify {change : ν → ν} (later : now ≤ t) :
    (c.modify now key change).get? t key = (c.get? t key).map change := by
  have same (e : Entry κ ν) : decide (e.isLive now = true ∧
      ((fun e => decide (e.key = key) && e.isLive t) ∘ fun e =>
        if e.key = key then { e with value := change e.value } else e) e = true) =
          (decide (e.key = key) && e.isLive t) := by
    by_cases here : e.key = key
    · have alive : t < e.expires → now < e.expires := Nat.lt_of_le_of_lt later
      simpa [here, Entry.isLive] using alive
    · simp [here]
  rw [Cache.get?, Cache.modify]
  dsimp only [Cache.sweep]
  rw [List.find?_map, List.find?_filter, Cache.get?, Option.map_map, Option.map_map]
  simp only [same]
  cases found : c.entries.find? fun e => decide (e.key = key) && e.isLive t with
  | none => rfl
  | some e =>
    have test := List.find?_some found
    have here : e.key = key := of_decide_eq_true (Bool.and_eq_true_iff.mp test).1
    simp [here]

theorem get?_erase_of_ne (ne : other ≠ key) : (c.erase key).get? t other = c.get? t other := by
  have same (e : Entry κ ν) : (decide (decide (e.key ≠ key) = true ∧
      (decide (e.key = other) && e.isLive t) = true)) = (decide (e.key = other) && e.isLive t) := by
    by_cases here : e.key = other
    · simp [here, ne]
    · simp [here]
  rw [Cache.get?, Cache.get?, Cache.erase, List.find?_filter]
  simp only [same]

theorem get?_sweep (later : now ≤ t) : (c.sweep now).get? t key = c.get? t key := by
  have same (e : Entry κ ν) : decide (e.isLive now = true ∧
      (decide (e.key = key) && e.isLive t) = true) = (decide (e.key = key) && e.isLive t) := by
    cases live : e.isLive t with
    | false => simp
    | true => simp [Entry.isLive_of_later later live]
  rw [Cache.get?, Cache.get?, Cache.sweep, List.find?_filter]
  simp only [same]

theorem get?_set_of_ne {v : ν} (ne : other ≠ key) (later : now ≤ t) :
    (c.set now key v).get? t other = c.get? t other := by
  have absent : [(⟨key, v, now + c.lifetime⟩ : Entry κ ν)].find?
      (fun e => decide (e.key = other) && e.isLive t) = none := by
    simp [ne.symm]
  rw [Cache.get?, Cache.set, List.find?_append, absent, Option.or_none]
  exact (get?_erase_of_ne ne).trans (get?_sweep later)

theorem get?_modify_of_ne {change : ν → ν} (ne : other ≠ key) (later : now ≤ t) :
    (c.modify now key change).get? t other = c.get? t other := by
  have kept : ((fun e => decide (e.key = other) && e.isLive t) ∘ fun e : Entry κ ν =>
      if e.key = key then { e with value := change e.value } else e) =
        fun e => decide (e.key = other) && e.isLive t := by
    funext e
    by_cases here : e.key = key <;> simp [here, Entry.isLive]
  rw [← get?_sweep (c := c) later, Cache.get?, Cache.modify, List.find?_map, kept, Cache.get?]
  cases found : (c.sweep now).entries.find? fun e => decide (e.key = other) && e.isLive t with
  | none => rfl
  | some e =>
    have test := List.find?_some found
    have here : e.key = other := of_decide_eq_true (Bool.and_eq_true_iff.mp test).1
    simp [here, ne]

end AddressSync.Cache
