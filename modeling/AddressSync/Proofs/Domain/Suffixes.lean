import AddressSync.Proofs.Domain.Reading

/-! The names that a zone holding a domain may have: the ends of its name that are made of whole
labels, the longest first. -/

namespace AddressSync.Domain

open Text

variable {d : Domain} {cs tail : List Char} {name : String}

/-- The name is what is left of the domain's name behind some of its labels, or behind none. Of a
wildcard, the name is what follows the star. -/
def HasSuffix (d : Domain) (name : String) : Prop :=
  d.base = name ∨ ∃ front, d.base = front ++ "." ++ name

theorem mem_shorter_iff : tail ∈ shorter cs ↔ ∃ front, cs = front ++ '.' :: tail := by
  induction cs with
  | nil => simp [shorter]
  | cons c rest ih =>
    have later : (∃ front, c :: rest = (c :: front) ++ '.' :: tail) ↔ tail ∈ shorter rest := by
      rw [ih]
      simp
    rw [shorter]
    constructor
    · intro mem
      split at mem
      · next dot =>
        rcases List.mem_cons.mp mem with rfl | mem
        · exact ⟨[], by rw [dot]; rfl⟩
        · obtain ⟨front, split⟩ := later.mpr mem
          exact ⟨_, split⟩
      · obtain ⟨front, split⟩ := later.mpr mem
        exact ⟨_, split⟩
    · rintro ⟨_ | ⟨first, front⟩, split⟩
      · obtain ⟨rfl, rfl⟩ := List.cons.inj split
        exact List.mem_cons_self
      · obtain ⟨rfl, _⟩ := List.cons.inj split
        have mem := later.mp ⟨front, split⟩
        split
        · exact List.mem_cons_of_mem _ mem
        · exact mem

theorem length_lt_of_mem_shorter (mem : tail ∈ shorter cs) : tail.length < cs.length := by
  obtain ⟨front, rfl⟩ := mem_shorter_iff.mp mem
  rw [List.length_append, List.length_cons]
  omega

theorem shorter_pairwise (cs : List Char) :
    (shorter cs).Pairwise fun a b => b.length < a.length := by
  induction cs with
  | nil => exact .nil
  | cons c rest ih =>
    rw [shorter]
    split
    · exact .cons (fun _ => length_lt_of_mem_shorter) ih
    · exact ih

theorem zoneNames_pairwise (d : Domain) :
    d.zoneNames.Pairwise fun a b => b.length < a.length := by
  rw [zoneNames]
  split
  · exact .nil
  refine .cons (fun name mem => ?_) (List.pairwise_map.mpr ?_)
  · obtain ⟨tail, among, rfl⟩ := List.mem_map.mp mem
    rw [String.length_ofList]
    exact length_lt_of_mem_shorter among
  · simpa only [String.length_ofList] using shorter_pairwise d.base.toList

theorem mem_zoneNames_iff (named : d.base ≠ "") : name ∈ d.zoneNames ↔ d.HasSuffix name := by
  rw [zoneNames, if_neg named, List.mem_cons, HasSuffix, eq_comm]
  refine or_congr_right ⟨fun mem => ?_, fun ⟨front, split⟩ => ?_⟩
  · obtain ⟨tail, among, rfl⟩ := List.mem_map.mp mem
    obtain ⟨front, split⟩ := mem_shorter_iff.mp among
    refine ⟨String.ofList front, String.toList_inj.mp ?_⟩
    simpa using split
  · have among : name.toList ∈ shorter d.base.toList :=
      mem_shorter_iff.mpr ⟨front.toList, by simpa using congrArg String.toList split⟩
    exact List.mem_map.mpr ⟨_, among, String.ofList_toList⟩

theorem IsParsed.sound (h : d.IsParsed) : nameRefusal? d.base.toList = none := by
  obtain ⟨text, read⟩ := h
  cases standsFor_of_parse read with
  | wildcard starred sound | plain bare sound =>
    rw [base, String.toList_ofList]
    exact sound

theorem IsParsed.base_ne (h : d.IsParsed) : d.base ≠ "" := by
  intro empty
  have sound := h.sound
  rw [empty] at sound
  cases sound

theorem HasSuffix.subset (suffix : d.HasSuffix name) : name.toList ⊆ d.base.toList := by
  rcases suffix with rfl | ⟨front, split⟩
  · exact fun _ => id
  · rw [split, String.toList_append]
    exact List.subset_append_right _ _

theorem IsParsed.star_not_mem (h : d.IsParsed) (suffix : d.HasSuffix name) : '*' ∉ name.toList := by
  intro mem
  rcases isLabelChar_of_sound h.sound (suffix.subset mem) with within | dot
  · cases within
  · cases dot

end AddressSync.Domain
