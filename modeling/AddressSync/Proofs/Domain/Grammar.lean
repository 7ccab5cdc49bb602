import AddressSync.Proofs.Domain.Reading

/-! The grammar of domain names, and how much more than a name is read: blanks around it, either
case of its letters, and any number of dots behind it. -/

namespace AddressSync.Domain

open Text

@[mk_iff] structure IsLabel (label : List Char) : Prop where
  ne_nil : label ≠ []
  length_le : label.length ≤ 63
  chars : ∀ c ∈ label, c.isAlphanum = true ∨ c = '-' ∨ c = '_'
  head : label.head? ≠ some '-'
  last : label.getLast? ≠ some '-'

def IsDotted (name : List Char) : Prop :=
  ∃ labels, labels ≠ [] ∧ (∀ label ∈ labels, IsLabel label) ∧ name = ['.'].intercalate labels

/-- A name of labels, with a star in front or without one. -/
@[mk_iff] structure IsName (name : List Char) : Prop where
  ascii : ∀ c ∈ name, c.toNat < 128
  length_le : name.length ≤ 253
  labels : IsDotted name ∨ ∃ suffix, name = '*' :: '.' :: suffix ∧ IsDotted suffix

variable {name label cs dots : List Char} {c : Char} {s : String}

section Labels

theorem isLabelChar_iff : isLabelChar c = true ↔ c.isAlphanum = true ∨ c = '-' ∨ c = '_' := by
  simp [isLabelChar, or_assoc]

theorem labelRefusal?_eq_none_iff : labelRefusal? name label = none ↔ IsLabel label := by
  unfold labelRefusal?
  constructor
  · intro fits
    split at fits
    · cases fits
    next some =>
      split at fits
      · cases fits
      next short =>
        split at fits
        · cases fits
        next chars =>
          split at fits
          · cases fits
          next edges =>
            obtain ⟨head, last⟩ := not_or.mp edges
            refine ⟨some, Nat.le_of_not_lt short, ?_, head, last⟩
            intro c mem
            simp only [Bool.not_eq_true, Bool.not_eq_false'] at chars
            exact isLabelChar_iff.mp (List.all_eq_true.mp chars c mem)
  · intro fits
    have chars : label.all isLabelChar = true :=
      List.all_eq_true.mpr fun c mem => isLabelChar_iff.mpr (fits.chars c mem)
    have short : ¬ maxLabelLength < label.length := Nat.not_lt_of_le fits.length_le
    simp [fits.ne_nil, short, chars, fits.head, fits.last]

theorem IsLabel.dot_not_mem (h : IsLabel label) : '.' ∉ label := by
  intro mem
  have within := h.chars '.' mem
  revert within
  decide

theorem isDotted_iff : IsDotted name ↔ ∀ label ∈ pieces '.' name, IsLabel label := by
  constructor
  · rintro ⟨labels, some, each, rfl⟩
    rwa [pieces_intercalate (fun label mem => (each label mem).dot_not_mem) some]
  · intro each
    refine ⟨pieces '.' name, ?_, each, ?_⟩
    · rw [pieces_eq_splitOn]
      exact List.splitOn_ne_nil _ _
    · rw [pieces_eq_splitOn, List.intercalate_splitOn]

theorem nameRefusal?_eq_none_iff : nameRefusal? name = none ↔ IsDotted name := by
  rw [nameRefusal?, List.findSome?_eq_none_iff, isDotted_iff]
  simp only [labelRefusal?_eq_none_iff]

theorem IsDotted.chars (h : IsDotted name) (mem : c ∈ name) :
    c.isAlphanum = true ∨ c = '-' ∨ c = '_' ∨ c = '.' := by
  have sound := nameRefusal?_eq_none_iff.mpr h
  rcases isLabelChar_of_sound sound mem with within | dot
  · have within := isLabelChar_iff.mp within
    tauto
  · tauto

theorem IsDotted.nil_not_mem (h : IsDotted name) : [] ∉ pieces '.' name :=
  fun mem => (isDotted_iff.mp h [] mem).ne_nil rfl

theorem IsDotted.ne_nil (h : IsDotted name) : name ≠ [] := by
  rintro rfl
  exact h.nil_not_mem (by simp [pieces])

theorem IsDotted.getLast?_ne (h : IsDotted name) : name.getLast? ≠ some '.' := by
  intro last
  obtain ⟨front, rfl⟩ := List.getLast?_eq_some_iff.mp last
  apply h.nil_not_mem
  rw [pieces_eq_splitOn, List.splitOn_append_cons_self]
  simp

end Labels

section Case

theorem isLabel_toLower : IsLabel (label.map Char.toLower) ↔ IsLabel label := by
  have head : (label.map Char.toLower).head? = some '-' ↔ label.head? = some '-' := by
    cases label <;> simp [toLower_eq_iff]
  have last : (label.map Char.toLower).getLast? = some '-' ↔ label.getLast? = some '-' := by
    rw [List.getLast?_map]
    cases label.getLast? <;> simp [toLower_eq_iff]
  simp only [isLabel_iff, ne_eq, head, last, List.map_eq_nil_iff, List.length_map,
    List.forall_mem_map, ← isLabelChar_iff, isLabelChar_toLower]

theorem isDotted_toLower : IsDotted (name.map Char.toLower) ↔ IsDotted name := by
  rw [isDotted_iff, isDotted_iff, pieces_map fun _ => toLower_eq_iff rfl]
  simp [isLabel_toLower]

theorem ascii_toLower : c.toLower.toNat < 128 ↔ c.toNat < 128 := by
  by_cases upper : c.isUpper = true
  · have ascii {c : Char} (letter : c.isAlpha = true) : c.toNat < 128 := by
      have ranges := isAlphanum_iff.mp (show c.isAlphanum = true by simp [Char.isAlphanum, letter])
      omega
    have letter := isAlpha_of_isUpper upper
    have small : c.toLower.isAlpha = true := by rwa [Char.isAlpha_toLower_eq_isAlpha]
    simp [ascii letter, ascii small]
  · rw [Char.toLower_eq_of_not_isUpper upper]

theorem starred_toLower : (∃ suffix, name.map Char.toLower = '*' :: '.' :: suffix ∧ IsDotted suffix) ↔
    ∃ suffix, name = '*' :: '.' :: suffix ∧ IsDotted suffix := by
  constructor
  · rintro ⟨suffix, starred, dotted⟩
    obtain ⟨star, rest, rfl, isStar, starred⟩ := List.map_eq_cons_iff.mp starred
    obtain ⟨dot, rest, rfl, isDot, rfl⟩ := List.map_eq_cons_iff.mp starred
    rw [toLower_eq_iff rfl] at isStar isDot
    exact ⟨rest, by rw [isStar, isDot], isDotted_toLower.mp dotted⟩
  · rintro ⟨suffix, rfl, dotted⟩
    exact ⟨suffix.map Char.toLower, rfl, isDotted_toLower.mpr dotted⟩

theorem isName_toLower : IsName (name.map Char.toLower) ↔ IsName name := by
  simp only [isName_iff, List.forall_mem_map, ascii_toLower, List.length_map, isDotted_toLower,
    starred_toLower]

end Case

section Dots

theorem IsName.ne_nil (h : IsName name) : name ≠ [] := by
  rcases h.labels with dotted | ⟨suffix, rfl, _⟩
  · exact dotted.ne_nil
  · simp

theorem IsName.nil_not_mem (h : IsName name) : [] ∉ pieces '.' name := by
  rcases h.labels with dotted | ⟨suffix, rfl, dotted⟩
  · exact dotted.nil_not_mem
  · simpa [pieces] using dotted.nil_not_mem

theorem IsName.getLast?_ne (h : IsName name) : name.getLast? ≠ some '.' := by
  rcases h.labels with dotted | ⟨suffix, rfl, dotted⟩
  · exact dotted.getLast?_ne
  · obtain ⟨c, rest, rfl⟩ := List.exists_cons_of_ne_nil dotted.ne_nil
    simpa using dotted.getLast?_ne

theorem dropTrailing_of_getLast?_ne (last : name.getLast? ≠ some '.') :
    dropTrailing (· == '.') name = name := by
  rw [dropTrailing_eq_rdropWhile, List.rdropWhile_eq_self_iff]
  intro some dot
  apply last
  rw [List.getLast?_eq_some_getLast some, beq_iff_eq.mp dot]

/-- A name has no dot behind it, so that it is what is left when the dots are dropped. -/
theorem isName_dropTrailing_iff : IsName (dropTrailing (· == '.') cs) ↔
    ∃ name n, IsName name ∧ cs = name ++ List.replicate n '.' := by
  constructor
  · intro named
    have dots : ∀ c ∈ cs.rtakeWhile (· == '.'), c = '.' := by
      intro c mem
      simpa using List.mem_rtakeWhile_imp mem
    refine ⟨_, (cs.rtakeWhile (· == '.')).length, named, ?_⟩
    rw [← List.eq_replicate_of_mem dots, dropTrailing_eq_rdropWhile,
      List.rdropWhile_append_rtakeWhile]
  · rintro ⟨name, n, named, rfl⟩
    have dots : ∀ c ∈ List.replicate n '.', (c == '.') = true := by simp
    rw [dropTrailing_append_of_pos dots, dropTrailing_of_getLast?_ne named.getLast?_ne]
    exact named

theorem lt_two_of_not_suffix {n : Nat} (single : ¬ ['.', '.'] <:+ name ++ List.replicate n '.') :
    n < 2 := by
  apply Nat.lt_of_not_le
  intro many
  apply single
  refine ⟨name ++ List.replicate (n - 2) '.', ?_⟩
  have two : List.replicate n '.' = List.replicate (n - 2) '.' ++ ['.', '.'] := by
    have sum : n = n - 2 + 2 := by omega
    rw [sum, List.replicate_add]
    rfl
  rw [two, List.append_assoc]

end Dots

theorem IsDotted.after?_eq_none (h : IsDotted name) : after? ['*', '.'] name = none := by
  cases starred : after? ['*', '.'] name with
  | none => rfl
  | some suffix =>
    have star : '*' ∈ name := by simp [eq_append_of_after? starred]
    exact absurd (h.chars star) (by decide)

theorem exists_parse_iff : (∃ d, parse s = .ok d) ↔ IsName (normalize s) := by
  constructor
  · rintro ⟨d, read⟩
    refine ⟨ascii_of_parse read, length_le_of_parse read, ?_⟩
    have stands := standsFor_of_parse read
    generalize normalize s = name at stands
    cases stands with
    | wildcard starred sound =>
      exact .inr ⟨_, eq_append_of_after? starred, nameRefusal?_eq_none_iff.mp sound⟩
    | plain bare sound => exact .inl (nameRefusal?_eq_none_iff.mp sound)
  · intro named
    have ascii : (normalize s).all (·.toNat < 128) = true := by simpa using named.ascii
    have short : ¬ maxLength < (normalize s).length := Nat.not_lt_of_le named.length_le
    simp only [parse, named.ne_nil, ascii, short, if_false, Bool.not_true]
    rcases named.labels with dotted | ⟨suffix, starred, dotted⟩
    · rw [dotted.after?_eq_none, nameRefusal?_eq_none_iff.mpr dotted]
      exact ⟨_, rfl⟩
    · have behind : after? ['*', '.'] (normalize s) = some suffix := by simp [starred, after?]
      rw [behind]
      dsimp only
      rw [nameRefusal?_eq_none_iff.mpr dotted]
      exact ⟨_, rfl⟩

/-- What is read is a name, with blanks around it and with any number of dots behind it. Of these texts,
the ones with a single dot at most are those that do not end in two dots. No text is read that has an
empty label before such dots. -/
theorem parse_grammar (s : String) :
    ((∃ d, parse s = .ok d) ↔
      ∃ name n, IsName name ∧ strip s.toList = name ++ List.replicate n '.') ∧
    ((∃ name, IsName name ∧ (strip s.toList = name ∨ strip s.toList = name ++ ['.'])) ↔
      (∃ d, parse s = .ok d) ∧ ¬ ['.', '.'] <:+ strip s.toList) ∧
    ([] ∈ pieces '.' (dropTrailing (· == '.') (strip s.toList)) → ∀ d, parse s ≠ .ok d) := by
  have named : (∃ d, parse s = .ok d) ↔ IsName (dropTrailing (· == '.') (strip s.toList)) := by
    rw [exists_parse_iff, normalize, isName_toLower]
  have grammar : (∃ d, parse s = .ok d) ↔
      ∃ name n, IsName name ∧ strip s.toList = name ++ List.replicate n '.' := by
    rw [named, isName_dropTrailing_iff]
  refine ⟨grammar, ?_, fun empty d read => (named.mp ⟨d, read⟩).nil_not_mem empty⟩
  rw [grammar]
  constructor
  · rintro ⟨name, named, bare | dotted⟩
    · refine ⟨⟨name, 0, named, by simpa using bare⟩, ?_⟩
      rw [bare]
      rintro ⟨front, rfl⟩
      exact named.getLast?_ne (by simp)
    · refine ⟨⟨name, 1, named, dotted⟩, ?_⟩
      rw [dotted]
      rintro ⟨front, same⟩
      have behind : name ++ ['.'] = front ++ ['.'] ++ ['.'] := by simpa using same.symm
      have ending := List.append_cancel_right behind
      exact named.getLast?_ne (by simp [ending])
  · rintro ⟨⟨name, n, named, same⟩, single⟩
    rw [same] at single ⊢
    have few := lt_two_of_not_suffix single
    interval_cases n
    · exact ⟨name, named, .inl (by simp)⟩
    · exact ⟨name, named, .inr (by simp)⟩

theorem parse_grammar_dotted : parse "example.com.." = .ok (.plain "example.com") ∧
    ¬ ∃ name, IsName name ∧
      (strip "example.com..".toList = name ∨ strip "example.com..".toList = name ++ ['.']) := by
  have read : parse "example.com.." = .ok (.plain "example.com") := by decide
  refine ⟨read, ?_⟩
  intro named
  have single := ((parse_grammar "example.com..").2.1.mp named).2
  exact single (by decide)

end AddressSync.Domain
