import AddressSync.Proofs.Domain.Grammar
import AddressSync.Proofs.Domain.Suffixes
import AddressSync.Proofs.Settings.RoundTrip
import AddressSync.Text.Lowercase

/-! Of all the texts that are read as one domain its printed name is the canonical one. However that
name is dressed up again, it is read as the same domain, and other domains have other names. -/

namespace AddressSync.Domain

open Text

variable {d : Domain} {s text recased : String} {c : Char}

section Stored

theorem StandsFor.base_subset {name : List Char} (stands : d.StandsFor name) :
    d.base.toList ⊆ name := by
  cases stands with
  | wildcard starred sound =>
    rw [eq_append_of_after? starred, base, String.toList_ofList]
    exact List.subset_append_right _ _
  | plain bare sound =>
    rw [base, String.toList_ofList]
    exact fun _ => id

theorem isUpper_of_mem_normalize (mem : c ∈ normalize s) : c.isUpper = false := by
  obtain ⟨k, -, rfl⟩ := List.mem_map.mp mem
  exact Char.isUpper_toLower_eq_false k

theorem IsParsed.isDotted (h : d.IsParsed) : IsDotted d.base.toList :=
  nameRefusal?_eq_none_iff.mp h.sound

theorem stored_of_parse (read : parse s = .ok d) (mem : c ∈ d.base.toList) :
    c.toNat < 128 ∧ c.isUpper = false ∧ c ≠ '*' := by
  have within := (standsFor_of_parse read).base_subset mem
  refine ⟨ascii_of_parse read c within, isUpper_of_mem_normalize within, ?_⟩
  rintro rfl
  have dotted : IsDotted d.base.toList := IsParsed.isDotted ⟨s, read⟩
  exact absurd (dotted.chars mem) (by decide)

end Stored

section Dressed

theorem isBlank_toLower (c : Char) : isBlank c.toLower = isBlank c := by
  by_cases upper : c.isUpper = true
  · have label : isLabelChar c = true := by
      simp [isLabelChar_iff, Char.isAlphanum, isAlpha_of_isUpper upper]
    have small : isLabelChar c.toLower = true := by rwa [isLabelChar_toLower]
    rw [isBlank_of_isLabelChar label, isBlank_of_isLabelChar small]
  · rw [Char.toLower_eq_of_not_isUpper upper]

theorem IsParsed.isBlank_eq_false (h : d.IsParsed) (mem : c ∈ d.print.toList) : isBlank c = false := by
  obtain ⟨s, read⟩ := h
  have stands := standsFor_of_parse read
  rw [stands.print] at mem
  exact stands.isBlank_eq_false c mem

theorem isBlank_of_recased (h : d.IsParsed) (same : lowercaseAscii recased = lowercaseAscii d.print)
    (mem : c ∈ recased.toList) : isBlank c = false := by
  have small : c.toLower ∈ (lowercaseAscii recased).toList := by
    rw [lowercaseAscii, String.toList_ofList]
    exact List.mem_map_of_mem mem
  rw [same, lowercaseAscii, String.toList_ofList] at small
  obtain ⟨k, shown, alike⟩ := List.mem_map.mp small
  rw [← isBlank_toLower, ← alike, isBlank_toLower]
  exact h.isBlank_eq_false shown

theorem normalize_of_unblanked (none : ∀ c ∈ recased.toList, isBlank c = false) {dots : List Char}
    (all : ∀ c ∈ dots, c = '.') (padded : IsPadded text.toList (recased.toList ++ dots)) :
    normalize text = dropTrailing (· == '.') (lowercaseAscii recased).toList := by
  have unblanked : ∀ c ∈ recased.toList ++ dots, isBlank c = false := by
    refine List.forall_mem_append.mpr ⟨none, ?_⟩
    intro c mem
    rw [all c mem]
    rfl
  have behind : ∀ c ∈ dots, (c == '.') = true := by simpa using all
  rw [normalize, strip_of_isPadded padded, strip_eq_self unblanked,
    dropTrailing_append_of_pos behind, lowercaseAscii, String.toList_ofList,
    dropTrailing_map fun _ => toLower_beq rfl]

theorem IsParsed.parse_recased (h : d.IsParsed)
    (same : lowercaseAscii recased = lowercaseAscii d.print)
    (padded : IsPadded text.toList (recased ++ ".").toList) : parse text = .ok d := by
  apply parse_congr h.parse_print
  rw [String.toList_append] at padded
  have shown : normalize d.print = dropTrailing (· == '.') (lowercaseAscii d.print).toList :=
    normalize_of_unblanked (fun c => h.isBlank_eq_false) (List.forall_mem_nil _)
      (by simpa using isPadded_self _)
  have dressed : normalize text = dropTrailing (· == '.') (lowercaseAscii recased).toList :=
    normalize_of_unblanked (fun c => isBlank_of_recased h same) (by simp) padded
  rw [shown, dressed, same]

end Dressed

/-- A domain that was read is stored in small ASCII letters, label by label. Its printed name is read
as the same domain, also as a JSON string, and in any case, with a dot behind it and between blanks;
and it has this name alone. -/
theorem parse_canonical (read : parse s = .ok d) :
    (∀ c ∈ d.base.toList, c.toNat < 128 ∧ c.isUpper = false ∧ c ≠ '*') ∧
    d.base.toList.getLast? ≠ some '.' ∧
    (∀ label ∈ pieces '.' d.base.toList, label ≠ [] ∧ label.length ≤ 63) ∧
    d.print.length ≤ 253 ∧ parse d.print = .ok d ∧ Domain.ofJson? d.toJson = some d ∧
    (∀ recased text : String, lowercaseAscii recased = lowercaseAscii d.print →
      IsPadded text.toList (recased ++ ".").toList → parse text = .ok d) ∧
    ∀ s' d', parse s' = .ok d' → (d = d' ↔ d.print = d'.print) := by
  have parsed : d.IsParsed := ⟨s, read⟩
  refine ⟨fun c => stored_of_parse read, parsed.isDotted.getLast?_ne, ?_, ?_, parsed.parse_print,
    ofJson?_toJson parsed, fun recased text => parsed.parse_recased, ?_⟩
  · intro label mem
    have fits := isDotted_iff.mp parsed.isDotted label mem
    exact ⟨fits.ne_nil, fits.length_le⟩
  · rw [← String.length_toList, (standsFor_of_parse read).print]
    exact length_le_of_parse read
  · intro s' d' read'
    constructor
    · rintro rfl
      rfl
    · exact parsed.eq_of_print ⟨s', read'⟩

theorem parse_canonical_wildcard : parse " *.Example.COM " = .ok (.wildcard "example.com") ∧
    parse "\t*.eXample.com.\n" = .ok (.wildcard "example.com") := by
  have read : parse " *.Example.COM " = .ok (.wildcard "example.com") := by decide
  have same : lowercaseAscii "*.eXample.com" = lowercaseAscii (wildcard "example.com").print := by
    rw [lowercaseAscii, lowercaseAscii, print, String.toList_append]
    rfl
  have dressed : "\t*.eXample.com.\n".toList = ['\t'] ++ ("*.eXample.com" ++ ".").toList ++ ['\n'] := by
    rw [String.toList_append]
    rfl
  obtain ⟨-, -, -, -, -, -, reads, -⟩ := parse_canonical read
  exact ⟨read, reads _ _ same ⟨['\t'], ['\n'], dressed, by simp [isBlank]⟩⟩

end AddressSync.Domain
