import AddressSync.Address.Parser
import AddressSync.Text.Numeral
import Mathlib

/-! Numbers by their digits. A number that is written out is read again, be it as an octet, as a group
or as a numeral, and a word is what its places hold. -/

namespace AddressSync

variable {base n : Nat} {digits : List Nat} {c : Char}

section Each

variable {α β : Type} {read : β → Option α}

theorem mapM'_map {write : α → β} {as : List α} (reads : ∀ a ∈ as, read (write a) = some a) :
    (as.map write).mapM' read = some as := by
  induction as with
  | nil => rfl
  | cons a rest ih =>
    obtain ⟨first, later⟩ := List.forall_mem_cons.mp reads
    rw [List.map_cons, List.mapM'_cons, first, ih later]
    rfl

theorem mapM'_eq_none {bs : List β} {b : β} (mem : b ∈ bs) (unread : read b = none) :
    bs.mapM' read = none := by
  induction bs with
  | nil => cases mem
  | cons first rest ih =>
    rcases List.mem_cons.mp mem with rfl | later
    · rw [List.mapM'_cons, unread]
      rfl
    · rw [List.mapM'_cons, ih later]
      cases read first <;> rfl

end Each

section Written

theorem ofDigits_concat (base : Nat) (xs : List Nat) (d : Nat) :
    ofDigits base (xs ++ [d]) = base * ofDigits base xs + d := by
  simp [ofDigits]

theorem ofDigits_append (base : Nat) (xs ys : List Nat) :
    ofDigits base (xs ++ ys) = ofDigits base xs * base ^ ys.length + ofDigits base ys := by
  induction ys using List.reverseRecOn with
  | nil => simp [ofDigits]
  | append_singleton ys d ih =>
    rw [← List.append_assoc, ofDigits_concat, ofDigits_concat, ih]
    simp only [List.length_append, List.length_singleton, pow_succ]
    ring

theorem ne_nil_of_written (written : Nat.toDigits base n = digits.map Nat.digitChar) :
    digits ≠ [] := by
  rintro rfl
  exact Nat.toDigits_ne_nil written

theorem exists_digits (large : 1 < base) (n : Nat) :
    ∃ digits : List Nat, Nat.toDigits base n = digits.map Nat.digitChar ∧
      (∀ d ∈ digits, d < base) ∧ ofDigits base digits = n ∧ (digits.head? = some 0 → n = 0) := by
  induction n using Nat.strongRecOn with
  | ind n ih =>
    by_cases small : n < base
    · refine ⟨[n], Nat.toDigits_of_lt_base small, by simpa using small, by simp [ofDigits], ?_⟩
      simp
    · have below : n / base < n := Nat.div_lt_self (by omega) large
      have positive : 0 < n / base := Nat.div_pos (by omega) (by omega)
      obtain ⟨front, written, bounded, value, leading⟩ := ih (n / base) below
      refine ⟨front ++ [n % base], ?_, ?_, ?_, ?_⟩
      · rw [Nat.toDigits_of_base_le large (by omega), written, List.map_append]
        rfl
      · intro d mem
        rcases List.mem_append.mp mem with before | last
        · exact bounded d before
        · rw [List.mem_singleton.mp last]
          exact Nat.mod_lt n (by omega)
      · rw [ofDigits_concat, value, Nat.div_add_mod]
      · intro zero
        rw [List.head?_append_of_ne_nil _ (ne_nil_of_written written)] at zero
        have none := leading zero
        omega

theorem length_le_of_written (large : 1 < base) {places : Nat} (some : 0 < places)
    (fits : n < base ^ places) (written : Nat.toDigits base n = digits.map Nat.digitChar) :
    digits.length ≤ places := by
  have length := (Nat.length_toDigits_le_iff large some).mpr fits
  rwa [written, List.length_map] at length

theorem mem_toDigits (large : 1 < base) (mem : c ∈ Nat.toDigits base n) :
    ∃ d < base, c = d.digitChar := by
  obtain ⟨digits, written, bounded, -⟩ := exists_digits large n
  rw [written] at mem
  obtain ⟨d, among, rfl⟩ := List.mem_map.mp mem
  exact ⟨d, bounded d among, rfl⟩

theorem not_mem_toDigits (large : 1 < base) (apart : ∀ d < base, d.digitChar ≠ c) (n : Nat) :
    c ∉ Nat.toDigits base n := by
  intro mem
  obtain ⟨d, below, same⟩ := mem_toDigits large mem
  exact apart d below same.symm

theorem decimal?_digitChar : ∀ d < 10, decimal? d.digitChar = some d := by decide

theorem hexadecimal?_digitChar : ∀ d < 16, hexadecimal? d.digitChar = some d := by decide

theorem digitValue?_digitChar : ∀ d < 10, Text.digitValue? d.digitChar = some d := by decide

theorem digits?_eq_mapM' (read : Char → Option Nat) (cs : List Char) :
    digits? read cs = cs.mapM' read := by
  induction cs with
  | nil => rfl
  | cons c rest ih => rw [digits?, List.mapM'_cons, ih]

theorem octet?_toDigits (fits : n < 256) : octet? (Nat.toDigits 10 n) = some n := by
  obtain ⟨digits, written, bounded, value, leading⟩ := exists_digits (by decide : 1 < 10) n
  have short : digits.length ≤ 3 :=
    length_le_of_written (by decide) (by decide) (by omega) written
  have some := ne_nil_of_written written
  have plain : ¬ (digits.head? = Option.some 0 ∧ 1 < digits.length) := by
    rintro ⟨zero, long⟩
    have length : (Nat.toDigits 10 n).length = digits.length := by rw [written, List.length_map]
    rw [leading zero] at length
    simp at length
    omega
  have reads : digits? decimal? (digits.map Nat.digitChar) = Option.some digits :=
    (digits?_eq_mapM' _ _).trans (mapM'_map fun d mem => decimal?_digitChar d (bounded d mem))
  rw [octet?, written, reads]
  have small : ¬ 255 < n := by omega
  simp only [Option.bind_eq_bind, Option.bind_some, value, some, plain]
  simp only [false_or, Nat.not_lt_of_le short, small, if_false]

theorem group?_toDigits (fits : n < 65536) : group? (Nat.toDigits 16 n) = some n := by
  obtain ⟨digits, written, bounded, value, -⟩ := exists_digits (by decide : 1 < 16) n
  have short : digits.length ≤ 4 :=
    length_le_of_written (by decide) (by decide) (by omega) written
  have some := ne_nil_of_written written
  have reads : digits? hexadecimal? (digits.map Nat.digitChar) = Option.some digits :=
    (digits?_eq_mapM' _ _).trans (mapM'_map fun d mem => hexadecimal?_digitChar d (bounded d mem))
  rw [group?, written, reads]
  simp [some, Nat.not_lt_of_le short, value]

theorem le_foldl (positive : 0 < base) (digits : List Nat) (start : Nat) :
    start ≤ digits.foldl (fun n d => base * n + d) start := by
  induction digits generalizing start with
  | nil => exact Nat.le_refl _
  | cons d rest ih =>
    have step : start ≤ base * start + d := by nlinarith
    exact Nat.le_trans step (ih _)

theorem readDigits_map {limit : Nat} (bounded : ∀ d ∈ digits, d < 10) (start : Nat)
    (fits : digits.foldl (fun n d => 10 * n + d) start ≤ limit) :
    Text.readDigits limit start (digits.map Nat.digitChar) =
      .ok (digits.foldl (fun n d => 10 * n + d) start) := by
  induction digits generalizing start with
  | nil => rfl
  | cons d rest ih =>
    obtain ⟨first, later⟩ := List.forall_mem_cons.mp bounded
    have below : 10 * start + d ≤ limit := Nat.le_trans (le_foldl (by decide) rest _) fits
    rw [List.map_cons, Text.readDigits, digitValue?_digitChar d first]
    dsimp only
    rw [if_pos below]
    exact ih later _ fits

theorem numeral_toDigits {limit : Nat} (fits : n ≤ limit) :
    Text.numeral limit (String.ofList (Nat.toDigits 10 n)) = .ok n := by
  obtain ⟨digits, written, bounded, value, -⟩ := exists_digits (by decide : 1 < 10) n
  have reads : Text.readDigits limit 0 (Nat.toDigits 10 n) = .ok n := by
    rw [written, readDigits_map bounded 0 (by rw [← value] at fits; exact fits)]
    exact congrArg Except.ok value
  have unsigned : ∀ rest, Nat.toDigits 10 n ≠ '+' :: rest := by
    intro rest signed
    have plus : '+' ∈ Nat.toDigits 10 n := by simp [signed]
    exact not_mem_toDigits (by decide) (by decide) n plus
  rw [Text.numeral, String.toList_ofList]
  split
  · next empty => exact absurd empty Nat.toDigits_ne_nil
  · next plus => exact absurd plus (unsigned _)
  · next plus => exact absurd plus (unsigned _)
  · exact reads

end Written

section Places

theorem ofDigits_places (base places n : Nat) :
    ofDigits base ((List.range places).map fun p => n / base ^ (places - 1 - p) % base) =
      n % base ^ places := by
  induction places generalizing n with
  | zero => simp [ofDigits, Nat.mod_one]
  | succ places ih =>
    have front : (List.range places).map (fun p => n / base ^ (places + 1 - 1 - p) % base) =
        (List.range places).map (fun p => n / base / base ^ (places - 1 - p) % base) := by
      apply List.map_congr_left
      intro p among
      have before : p < places := List.mem_range.mp among
      have next : places + 1 - 1 - p = (places - 1 - p) + 1 := by omega
      rw [next, pow_succ', ← Nat.div_div_eq_div_mul]
    rw [List.range_succ, List.map_append, front, List.map_singleton, ofDigits_concat, ih, pow_succ',
      Nat.mod_mul]
    simp
    omega

theorem ofDigits_octets (bits : BitVec 32) : ofDigits 256 (octets bits) = bits.toNat := by
  have written : octets bits =
      (List.range 4).map fun p => bits.toNat / 256 ^ (4 - 1 - p) % 256 := by
    apply List.map_congr_left
    intro p _
    rw [octetAt, Nat.shiftRight_eq_div_pow, pow_mul]
    rfl
  rw [written, ofDigits_places]
  exact Nat.mod_eq_of_lt bits.isLt

theorem ofDigits_groups (bits : BitVec 128) : ofDigits 65536 (groups bits) = bits.toNat := by
  have written : groups bits =
      (List.range 8).map fun p => bits.toNat / 65536 ^ (8 - 1 - p) % 65536 := by
    apply List.map_congr_left
    intro p _
    rw [groupAt, Nat.shiftRight_eq_div_pow, pow_mul]
    rfl
  rw [written, ofDigits_places]
  exact Nat.mod_eq_of_lt bits.isLt

theorem length_octets (bits : BitVec 32) : (octets bits).length = 4 := by simp [octets]

theorem length_groups (bits : BitVec 128) : (groups bits).length = 8 := by simp [groups]

theorem octet_lt {bits : BitVec 32} (mem : n ∈ octets bits) : n < 256 := by
  obtain ⟨place, -, rfl⟩ := List.mem_map.mp mem
  exact Nat.mod_lt _ (by decide)

theorem group_lt {bits : BitVec 128} (mem : n ∈ groups bits) : n < 65536 := by
  obtain ⟨place, -, rfl⟩ := List.mem_map.mp mem
  exact Nat.mod_lt _ (by decide)

theorem Address.ofOctets_octets (bits : BitVec 32) : ofOctets (octets bits) = .v4 bits := by
  rw [ofOctets, ofDigits_octets, BitVec.ofNat_toNat, BitVec.setWidth_eq]

theorem Address.ofGroups_groups (bits : BitVec 128) : ofGroups (groups bits) = .v6 bits := by
  rw [ofGroups, ofDigits_groups, BitVec.ofNat_toNat, BitVec.setWidth_eq]

theorem Address.ofGroups_mapped {bits : BitVec 128} {inner : BitVec 32}
    (mapped : mapped? bits = some inner) :
    ofGroups (List.replicate 5 0 ++ [0xFFFF, ofDigits 256 ((octets inner).take 2),
      ofDigits 256 ((octets inner).drop 2)]) = .v6 bits := by
  rw [mapped?] at mapped
  split at mapped
  · next high =>
    have low : inner.toNat = bits.toNat % 2 ^ 32 := by
      rw [← Option.some.inj mapped, BitVec.toNat_setWidth]
    -- The two groups are the two halves of the octets.
    have halves : ofDigits 256 ((octets inner).take 2) * 256 ^ 2 +
        ofDigits 256 ((octets inner).drop 2) = inner.toNat := by
      rw [← ofDigits_octets inner, ← List.take_append_drop 2 (octets inner), ofDigits_append]
      simp [length_octets]
    have word : ofDigits 65536 (List.replicate 5 0 ++ [0xFFFF,
        ofDigits 256 ((octets inner).take 2), ofDigits 256 ((octets inner).drop 2)]) =
        bits.toNat := by
      rw [Nat.shiftRight_eq_div_pow] at high
      generalize ofDigits 256 ((octets inner).take 2) = first at halves ⊢
      generalize ofDigits 256 ((octets inner).drop 2) = second at halves ⊢
      simp [ofDigits, List.replicate]
      omega
    rw [ofGroups, word, BitVec.ofNat_toNat, BitVec.setWidth_eq]
  · cases mapped

end Places

end AddressSync
