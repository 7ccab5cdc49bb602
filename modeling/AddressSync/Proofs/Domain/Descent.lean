import AddressSync.Proofs.Domain.Canonical

/-! The way down from a name to the names that a zone holding it may have, taken one name at a time.
It ends on every text, also on one that is no name: behind the text itself there is one more name for
each dot, and then there are none any more. -/

namespace AddressSync.Domain

open Text

variable {d : Domain} {cs tail front : List Char} {name text : String} {k : Nat}

section Shorter

theorem shorter_eq (cs : List Char) :
    shorter cs = match cut? '.' cs with
      | none => []
      | some (_, tail) => tail :: shorter tail := by
  induction cs with
  | nil => rfl
  | cons c rest ih =>
    rw [shorter, cut?]
    split
    · rfl
    · rw [ih]
      cases cut? '.' rest <;> rfl

theorem length_shorter (cs : List Char) : (shorter cs).length = cs.count '.' := by
  induction cs with
  | nil => rfl
  | cons c rest ih =>
    rw [shorter, List.count_cons]
    split
    · next dot => simp [ih, dot]
    · next other => simp [ih, other]

/-- The names come in the order of the dots that they stand behind. -/
theorem getElem?_shorter : (shorter cs)[k]? = some tail ↔
    ∃ front, cs = front ++ '.' :: tail ∧ front.count '.' = k := by
  induction cs generalizing k with
  | nil => simp [shorter]
  | cons c rest ih =>
    have cases : (∃ front, c :: rest = front ++ '.' :: tail ∧ front.count '.' = k) ↔
        (c = '.' ∧ rest = tail ∧ 0 = k) ∨
          ∃ front, rest = front ++ '.' :: tail ∧ (c :: front).count '.' = k := by
      constructor
      · rintro ⟨_ | ⟨first, front⟩, same, count⟩
        · obtain ⟨dot, rfl⟩ := List.cons.inj same
          exact .inl ⟨dot, rfl, count⟩
        · obtain ⟨rfl, below⟩ := List.cons.inj same
          exact .inr ⟨front, below, count⟩
      · rintro (⟨rfl, rfl, count⟩ | ⟨front, rfl, count⟩)
        · exact ⟨[], rfl, count⟩
        · exact ⟨c :: front, rfl, count⟩
    rw [cases, shorter]
    split
    · next dot =>
      cases k with
      | zero => simp [dot]
      | succ k => simp [dot, ih]
    · next other => simp [other, ih]

theorem isChain_shorter (cs : List Char) :
    (cs :: shorter cs).IsChain fun a b => ∃ front, a = front ++ '.' :: b := by
  induction cs with
  | nil => exact .singleton _
  | cons c rest ih =>
    rw [shorter]
    split
    · next dot => exact .cons_cons ⟨[], by rw [dot]; rfl⟩ ih
    · cases below : shorter rest with
      | nil => exact .singleton _
      | cons name names =>
        rw [below] at ih
        obtain ⟨⟨front, rfl⟩, rest⟩ := List.isChain_cons_cons.mp ih
        exact .cons_cons ⟨c :: front, rfl⟩ rest

end Shorter

section Walk

theorem nameAt_over : (⟨none⟩ : Descent).nameAt k = none := by
  induction k with
  | zero => rfl
  | succ k ih => exact ih

theorem nameAt_eq (cs : List Char) (k : Nat) :
    (⟨some cs⟩ : Descent).nameAt k = ((cs :: shorter cs).map String.ofList)[k]? := by
  induction k generalizing cs with
  | zero => rfl
  | succ k ih =>
    change (⟨(cut? '.' cs).map Prod.snd⟩ : Descent).nameAt k = _
    rw [shorter_eq]
    cases cut? '.' cs with
    | none => rw [Option.map_none, nameAt_over]; rfl
    | some parts => exact ih parts.2

theorem nameAt_descent (d : Domain) (k : Nat) : d.descent.nameAt k = d.zoneNames[k]? := by
  rw [descent, zoneNames]
  split
  · exact nameAt_over
  · rw [nameAt_eq, List.map_cons, String.ofList_toList]

end Walk

section Named

theorem length_zoneNames (named : d.base ≠ "") :
    d.zoneNames.length = d.base.toList.count '.' + 1 := by
  rw [zoneNames, if_neg named, List.length_cons, List.length_map, length_shorter]

theorem getElem?_zoneNames (named : d.base ≠ "") : d.zoneNames[k + 1]? = some name ↔
    ∃ front, d.base = front ++ "." ++ name ∧ front.toList.count '.' = k := by
  rw [zoneNames, if_neg named, List.getElem?_cons_succ, List.getElem?_map, Option.map_eq_some_iff]
  constructor
  · rintro ⟨tail, below, rfl⟩
    obtain ⟨front, same, count⟩ := getElem?_shorter.mp below
    refine ⟨String.ofList front, String.toList_inj.mp ?_, by rwa [String.toList_ofList]⟩
    simpa using same
  · rintro ⟨front, same, count⟩
    refine ⟨name.toList, getElem?_shorter.mpr ⟨front.toList, ?_, count⟩, String.ofList_toList⟩
    simpa using congrArg String.toList same

theorem isChain_zoneNames (d : Domain) :
    d.zoneNames.IsChain fun a b => b.toList <:+ a.toList ∧ b.length < a.length := by
  rw [zoneNames]
  split
  · exact .nil
  rw [← String.ofList_toList (s := d.base), ← List.map_cons, List.isChain_map,
    String.toList_ofList]
  refine (isChain_shorter _).imp ?_
  rintro _ b ⟨front, rfl⟩
  simp only [String.toList_ofList, String.length_ofList]
  refine ⟨⟨front ++ ['.'], by simp⟩, ?_⟩
  rw [List.length_append, List.length_cons]
  omega

end Named

section Read

theorem IsDotted.of_append (h : IsDotted (front ++ '.' :: tail)) : IsDotted tail := by
  rw [isDotted_iff, pieces_eq_splitOn] at h ⊢
  rw [List.splitOn_append_cons_self] at h
  exact fun label mem => h label (List.mem_append_right _ mem)

theorem HasSuffix.isDotted (suffix : d.HasSuffix name) (h : IsDotted d.base.toList) :
    IsDotted name.toList := by
  rcases suffix with rfl | ⟨front, split⟩
  · exact h
  · have parts : d.base.toList = front.toList ++ '.' :: name.toList := by
      simpa using congrArg String.toList split
    rw [parts] at h
    exact h.of_append

theorem HasSuffix.length_le (suffix : d.HasSuffix name) : name.length ≤ d.base.length := by
  rcases suffix with rfl | ⟨front, split⟩
  · exact Nat.le_refl _
  · rw [split, String.length_append]
    omega

theorem length_base_le (read : parse text = .ok d) : d.base.length ≤ 253 := by
  have short := length_le_of_parse read
  have stands := standsFor_of_parse read
  generalize normalize text = whole at short stands
  cases stands with
  | wildcard starred sound =>
    rw [eq_append_of_after? starred, List.length_append] at short
    rw [base, String.length_ofList]
    omega
  | plain bare sound => rwa [base, String.length_ofList]

theorem normalize_eq_self (dotted : IsDotted name.toList)
    (small : ∀ c ∈ name.toList, c.isUpper = false) : normalize name = name.toList := by
  have unblanked : ∀ c ∈ name.toList, isBlank c = false := by
    intro c mem
    rcases isLabelChar_of_sound (nameRefusal?_eq_none_iff.mpr dotted) mem with within | rfl
    · exact isBlank_of_isLabelChar within
    · rfl
  rw [normalize, strip_eq_self unblanked, dropTrailing_of_getLast?_ne dotted.getLast?_ne]
  have kept : ∀ c ∈ name.toList, c.toLower = c := fun c mem =>
    Char.toLower_eq_of_not_isUpper (Bool.eq_false_iff.mp (small c mem))
  exact (List.map_congr_left kept).trans (List.map_id _)

theorem parse_of_isDotted (dotted : IsDotted name.toList) (short : name.length ≤ 253)
    (stored : ∀ c ∈ name.toList, c.toNat < 128 ∧ c.isUpper = false) :
    parse name = .ok (.plain name) := by
  have same := normalize_eq_self dotted fun c mem => (stored c mem).2
  have named : IsName (normalize name) := by
    rw [same]
    exact ⟨fun c mem => (stored c mem).1, short, .inl dotted⟩
  obtain ⟨d, read⟩ := exists_parse_iff.mpr named
  have stands := standsFor_of_parse read
  rw [same] at stands
  cases stands with
  | wildcard starred sound =>
    rw [dotted.after?_eq_none] at starred
    cases starred
  | plain bare sound => rwa [String.ofList_toList] at read

theorem parse_of_mem_zoneNames (read : parse text = .ok d) (mem : name ∈ d.zoneNames) :
    parse name = .ok (.plain name) := by
  have parsed : d.IsParsed := ⟨text, read⟩
  have suffix := (mem_zoneNames_iff parsed.base_ne).mp mem
  have short := Nat.le_trans suffix.length_le (length_base_le read)
  refine parse_of_isDotted (suffix.isDotted parsed.isDotted) short fun c mem => ?_
  obtain ⟨ascii, small, -⟩ := stored_of_parse read (suffix.subset mem)
  exact ⟨ascii, small⟩

end Read

/-- Whatever text a domain was made of, the way down from it gives nothing if it is empty, and else one
name more than it has dots: the text itself, and for each dot from the left on what is behind it. Each
is a shorter end of the one before, and after the last one there is nothing any more. If the domain was
read, each of them is read as it stands. -/
theorem descent_exact (d : Domain) :
    (d.base = "" → ∀ k, d.descent.nameAt k = none) ∧
    (d.base ≠ "" →
      (∀ k, (d.descent.nameAt k).isSome ↔ k < d.base.toList.count '.' + 1) ∧
      d.descent.nameAt 0 = some d.base ∧
      ∀ k name, d.descent.nameAt (k + 1) = some name ↔
        ∃ front, d.base = front ++ "." ++ name ∧ front.toList.count '.' = k) ∧
    (∀ k a b, d.descent.nameAt k = some a → d.descent.nameAt (k + 1) = some b →
      b.toList <:+ a.toList ∧ b.length < a.length) ∧
    (∀ k, d.descent.nameAt k = d.zoneNames[k]?) ∧
    ∀ text, parse text = .ok d → ∀ name ∈ d.zoneNames, parse name = .ok (.plain name) := by
  refine ⟨fun empty k => ?_, fun named => ⟨fun k => ?_, ?_, fun k name => ?_⟩,
    fun k a b here below => ?_, nameAt_descent d, fun text read name => parse_of_mem_zoneNames read⟩
  · rw [nameAt_descent, zoneNames, if_pos empty]
    rfl
  · rw [nameAt_descent, ← length_zoneNames named, isSome_getElem?]
  · rw [nameAt_descent, zoneNames, if_neg named]
    rfl
  · rw [nameAt_descent, getElem?_zoneNames named]
  · rw [nameAt_descent] at here below
    obtain ⟨short, rfl⟩ := List.getElem?_eq_some_iff.mp below
    obtain ⟨_, rfl⟩ := List.getElem?_eq_some_iff.mp here
    exact List.isChain_iff_getElem.mp (isChain_zoneNames d) k short

/-- A text that is no name, with dots at both ends and two side by side. -/
example : (plain ".a..b.").zoneNames = [".a..b.", "a..b.", ".b.", "b.", ""] := by decide

theorem descent_exact_wildcard : parse "*.A.example.com." = .ok (.wildcard "a.example.com") ∧
    (wildcard "a.example.com").zoneNames = ["a.example.com", "example.com", "com"] ∧
    (wildcard "a.example.com").descent.nameAt 3 = none ∧ parse "com" = .ok (.plain "com") := by
  have read : parse "*.A.example.com." = .ok (.wildcard "a.example.com") := by decide
  have names : (wildcard "a.example.com").zoneNames = ["a.example.com", "example.com", "com"] := by
    decide
  obtain ⟨-, -, -, given, reads⟩ := descent_exact (.wildcard "a.example.com")
  refine ⟨read, names, ?_, reads _ read "com" (by simp [names])⟩
  rw [given, names]
  rfl

end AddressSync.Domain
