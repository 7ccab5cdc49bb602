import AddressSync.Proofs.Provider.Owner

/-! A provider without the records of some identifiers, which is all that deleting records can make
of it. -/

namespace AddressSync.Simulation.Provider

variable {p p' : Provider} {zone name id : String} {family : Family} {ids ids' : List String}

def without (p : Provider) (ids : List String) : Provider :=
  { p with records := p.records.filter (·.record.id ∉ ids) }

@[simp] theorem without_nil (p : Provider) : p.without [] = p := by
  simp [without]

theorem without_without (p : Provider) (ids ids' : List String) :
    (p.without ids).without ids' = p.without (ids ++ ids') := by
  simp only [without, List.filter_filter]
  congr 1
  refine List.filter_congr fun r _ => ?_
  simp only [List.mem_append, not_or, Bool.decide_and, Bool.and_comm]

theorem recordsOf_without (p : Provider) (ids : List String) :
    (p.without ids).recordsOf zone name family =
      (p.recordsOf zone name family).filter (·.id ∉ ids) := by
  simp only [without, recordsOf, List.filter_map, List.filter_filter]
  congr 1
  refine List.filter_congr fun r _ => ?_
  exact Bool.and_comm ..

theorem recordsOf_without_of_absent (absent : ∀ r ∈ p.recordsOf zone name family, r.id ∉ ids) :
    (p.without ids).recordsOf zone name family = p.recordsOf zone name family := by
  rw [recordsOf_without, List.filter_eq_self]
  exact fun r mem => decide_eq_true (absent r mem)

theorem without_of_absent (absent : ∀ r ∈ p.records, r.record.id ≠ id) : p.without [id] = p := by
  have kept : p.records.filter (·.record.id ∉ [id]) = p.records :=
    List.filter_eq_self.mpr fun r mem => by simpa using absent r mem
  rw [without, kept]

theorem perform_deleteRecord (p : Provider) (zone id : String) :
    (p.perform (.deleteRecord zone id)).2 = p.without [id] := by
  rw [perform]
  by_cases found : p.records.any (·.record.id = id)
  · rw [if_pos found]
    simp [without]
  · rw [if_neg found]
    refine (without_of_absent fun r mem same => found ?_).symm
    exact List.any_eq_true.mpr ⟨r, mem, decide_eq_true same⟩

end AddressSync.Simulation.Provider
