import AddressSync.Caches

/-! When the entries of caches expire. What a change of the caches stores expires one lifetime after
the change, and no change gives an entry that was there another time to expire. -/

namespace AddressSync

namespace Cache

variable {κ ν : Type} {now : Nat} {c : Cache κ ν} {key : κ}

def expiries (c : Cache κ ν) : List Nat := c.entries.map Entry.expires

/-- A change leaves alone how long entries live, and what it stores expires one lifetime from now. -/
structure Stamped (now : Nat) (c c' : Cache κ ν) : Prop where
  lifetime : c'.lifetime = c.lifetime
  expiries : ∀ t ∈ c'.expiries, t ∈ c.expiries ∨ t = now + c.lifetime

theorem stamped_refl (now : Nat) (c : Cache κ ν) : Stamped now c c := ⟨rfl, fun _ => .inl⟩

theorem stamped_of_subset {c' : Cache κ ν} (lifetime : c'.lifetime = c.lifetime)
    (fewer : ∀ e ∈ c'.entries, e ∈ c.entries) : Stamped now c c' := by
  refine ⟨lifetime, fun t mem => ?_⟩
  obtain ⟨e, among, rfl⟩ := List.mem_map.mp mem
  exact .inl (List.mem_map_of_mem (fewer e among))

theorem stamped_clear : Stamped now c c.clear := stamped_of_subset rfl nofun

variable [DecidableEq κ]

theorem stamped_erase : Stamped now c (c.erase key) :=
  stamped_of_subset rfl fun _ mem => (List.mem_filter.mp mem).1

theorem stamped_set (value : ν) : Stamped now c (c.set now key value) := by
  refine ⟨rfl, fun t mem => ?_⟩
  obtain ⟨e, among, rfl⟩ := List.mem_map.mp mem
  rcases List.mem_append.mp among with kept | new
  · exact .inl (List.mem_map_of_mem (List.mem_filter.mp (List.mem_filter.mp kept).1).1)
  · rw [List.mem_singleton.mp new]
    exact .inr rfl

theorem stamped_modify (change : ν → ν) : Stamped now c (c.modify now key change) := by
  refine ⟨rfl, fun t mem => .inl ?_⟩
  obtain ⟨e, among, rfl⟩ := List.mem_map.mp mem
  obtain ⟨e', kept, rfl⟩ := List.mem_map.mp among
  have there : e'.expires ∈ c.expiries := List.mem_map_of_mem (List.mem_filter.mp kept).1
  split <;> exact there

end Cache

namespace Caches

variable {now lifetime : Nat} {c c' : Caches}

def expiries (c : Caches) : List Nat :=
  c.zones.expiries ++ c.owners.expiries ++ c.records.expiries ++ c.indexes.expiries ++
    c.items.expiries

def lifetimes (c : Caches) : List Nat :=
  [c.zones.lifetime, c.owners.lifetime, c.records.lifetime, c.indexes.lifetime, c.items.lifetime]

structure Stamped (now : Nat) (c c' : Caches) : Prop where
  zones : c.zones.Stamped now c'.zones
  owners : c.owners.Stamped now c'.owners
  records : c.records.Stamped now c'.records
  indexes : c.indexes.Stamped now c'.indexes
  items : c.items.Stamped now c'.items

theorem stamped_refl (now : Nat) (c : Caches) : c.Stamped now c :=
  ⟨Cache.stamped_refl _ _, Cache.stamped_refl _ _, Cache.stamped_refl _ _, Cache.stamped_refl _ _,
    Cache.stamped_refl _ _⟩

theorem Stamped.lifetimes (h : c.Stamped now c') : c'.lifetimes = c.lifetimes := by
  rw [Caches.lifetimes, h.zones.lifetime, h.owners.lifetime, h.records.lifetime, h.indexes.lifetime,
    h.items.lifetime]
  rfl

theorem Stamped.expiries (h : c.Stamped now c') (same : ∀ l ∈ c.lifetimes, l = lifetime) :
    ∀ t ∈ c'.expiries, t ∈ c.expiries ∨ t = now + lifetime := by
  simp only [Caches.lifetimes, List.forall_mem_cons, List.not_mem_nil, false_imp_iff, implies_true,
    and_true] at same
  obtain ⟨zones, owners, records, indexes, items⟩ := same
  intro t mem
  simp only [Caches.expiries, List.mem_append] at mem ⊢
  rcases mem with (((mem | mem) | mem) | mem) | mem
  · exact (h.zones.expiries t mem).imp (by simp +contextual) fun stamp => zones ▸ stamp
  · exact (h.owners.expiries t mem).imp (by simp +contextual) fun stamp => owners ▸ stamp
  · exact (h.records.expiries t mem).imp (by simp +contextual) fun stamp => records ▸ stamp
  · exact (h.indexes.expiries t mem).imp (by simp +contextual) fun stamp => indexes ▸ stamp
  · exact (h.items.expiries t mem).imp (by simp +contextual) fun stamp => items ▸ stamp

end Caches

namespace Sync

def Stamping (change : Nat → Caches → Caches) : Prop :=
  ∀ (now : Nat) (c : Caches), c.Stamped now (change now c)

theorem stamping_flush : Stamping fun _ c => c.flush :=
  fun _ _ => ⟨Cache.stamped_clear, Cache.stamped_clear, Cache.stamped_clear, Cache.stamped_clear,
    Cache.stamped_clear⟩

end Sync

end AddressSync
