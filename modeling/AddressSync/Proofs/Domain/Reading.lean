import AddressSync.Proofs.Domain.Printed
import AddressSync.Proofs.Text.Blank
import Mathlib

/-! A name in its one form keeps it: printed and read again, a domain is the same one. -/

namespace AddressSync.Domain

open Text

variable {d : Domain} {name : List Char} {text text' : String} {c : Char}

theorem isAlphanum_iff : c.isAlphanum = true ↔
    ((65 ≤ c.toNat ∧ c.toNat ≤ 90) ∨ 97 ≤ c.toNat ∧ c.toNat ≤ 122) ∨
      48 ≤ c.toNat ∧ c.toNat ≤ 57 := by
  simp only [Char.isAlphanum, Char.isAlpha, Char.isUpper, Char.isLower, Char.isDigit,
    Bool.or_eq_true, Bool.and_eq_true, decide_eq_true_eq, UInt32.le_iff_toNat_le]
  rfl

theorem isBlank_of_isLabelChar (within : isLabelChar c = true) : isBlank c = false := by
  simp only [isLabelChar, Bool.or_eq_true, beq_iff_eq] at within
  rcases within with (alphanumeric | rfl) | rfl
  · have ranges := isAlphanum_iff.mp alphanumeric
    simp only [isBlank, Bool.or_eq_false_iff, Bool.and_eq_false_iff, decide_eq_false_iff_not,
      beq_eq_false_iff_ne]
    omega
  · rfl
  · rfl

theorem isLabelChar_of_sound (sound : nameRefusal? name = none) (mem : c ∈ name) :
    isLabelChar c = true ∨ c = '.' := by
  rcases mem_pieces mem with dot | ⟨label, among, within⟩
  · exact .inr dot
  · have fits := List.findSome?_eq_none_iff.mp sound label among
    rw [labelRefusal?] at fits
    split at fits
    · cases fits
    split at fits
    · cases fits
    split at fits
    · cases fits
    · next all =>
      rw [Bool.not_eq_true, Bool.not_eq_false'] at all
      exact .inl (List.all_eq_true.mp all c within)

theorem StandsFor.print (stands : d.StandsFor name) : d.print.toList = name := by
  cases stands with
  | wildcard starred sound =>
    rw [eq_append_of_after? starred, Domain.print, String.toList_append, String.toList_ofList,
      String.toList_ofList]
  | plain bare sound => exact String.toList_ofList

theorem StandsFor.isBlank_eq_false (stands : d.StandsFor name) : ∀ c ∈ name, isBlank c = false := by
  have of_sound {name : List Char} (sound : nameRefusal? name = none) :
      ∀ c ∈ name, isBlank c = false := by
    intro c mem
    rcases isLabelChar_of_sound sound mem with within | rfl
    · exact isBlank_of_isLabelChar within
    · rfl
  cases stands with
  | wildcard starred sound =>
    rw [eq_append_of_after? starred]
    exact List.forall_mem_cons.mpr ⟨rfl, List.forall_mem_cons.mpr ⟨rfl, of_sound sound⟩⟩
  | plain bare sound => exact of_sound sound

theorem isAlpha_of_isUpper (upper : c.isUpper = true) : c.isAlpha = true := by
  simp [Char.isAlpha, upper]

theorem toLower_eq_iff {k : Char} (other : k.isAlpha = false) : c.toLower = k ↔ c = k := by
  by_cases upper : c.isUpper = true
  · have letter := isAlpha_of_isUpper upper
    have small : c.toLower.isAlpha = true := by rwa [Char.isAlpha_toLower_eq_isAlpha]
    constructor
    · rintro rfl
      simp [small] at other
    · rintro rfl
      simp [letter] at other
  · rw [Char.toLower_eq_of_not_isUpper upper]

theorem toLower_beq {k : Char} (other : k.isAlpha = false) : (c.toLower == k) = (c == k) := by
  rw [Bool.eq_iff_iff, beq_iff_eq, beq_iff_eq]
  exact toLower_eq_iff other

theorem isAlphanum_toLower (c : Char) : c.toLower.isAlphanum = c.isAlphanum := by
  by_cases upper : c.isUpper = true
  · simp [Char.isAlphanum, isAlpha_of_isUpper upper]
  · rw [Char.toLower_eq_of_not_isUpper upper]

theorem isLabelChar_toLower (c : Char) : isLabelChar c.toLower = isLabelChar c := by
  rw [isLabelChar, isLabelChar, isAlphanum_toLower, toLower_beq rfl, toLower_beq rfl]

theorem normalize_normalize (none : ∀ c ∈ normalize text, isBlank c = false) :
    normalize (String.ofList (normalize text)) = normalize text := by
  calc normalize (String.ofList (normalize text))
      = (dropTrailing (· == '.') (normalize text)).map Char.toLower := by
        rw [normalize, String.toList_ofList, strip_eq_self none]
    _ = normalize text := by
        rw [normalize, dropTrailing_map fun _ => toLower_beq rfl, List.map_map]
        simp only [dropTrailing_eq_rdropWhile, List.rdropWhile_idempotent, Function.comp_def,
          Char.toLower_toLower_eq_toLower]

theorem parse_congr (read : parse text = .ok d) (same : normalize text' = normalize text) :
    parse text' = .ok d := by
  rw [parse] at read ⊢
  rw [same]
  split at read
  · cases read
  split at read
  · cases read
  · next some ascii =>
    rw [if_neg some, if_neg ascii]
    exact read

theorem IsParsed.parse_print (h : d.IsParsed) : parse d.print = .ok d := by
  obtain ⟨text, read⟩ := h
  have stands := standsFor_of_parse read
  -- Only the one form of a text decides how it is read, and the printed name is this form.
  refine parse_congr read ?_
  rw [← String.ofList_toList (s := d.print), stands.print]
  exact normalize_normalize stands.isBlank_eq_false

end AddressSync.Domain
