import AddressSync.Address.Block
import AddressSync.Proofs.Address.Bits
import AddressSync.Proofs.Address.Digits
import AddressSync.Proofs.Text.Blank
import Mathlib

/-! An address that is printed is read again, whichever groups are left out of it and whether or not
it ends in an IPv4 address. So is a block. -/

namespace AddressSync

open Text

variable {n base : Nat} {c sep : Char} {cs : List Char} {ns gs : List Nat} {a : Address} {b : Block}

section Joined

theorem mem_intercalate {between : List Char} {parts : List (List Char)}
    (mem : c ∈ between.intercalate parts) : c ∈ between ∨ ∃ part ∈ parts, c ∈ part := by
  induction parts with
  | nil => exact absurd mem List.not_mem_nil
  | cons part more ih =>
    by_cases last : more = []
    · subst last
      exact .inr ⟨part, List.mem_cons_self, by simpa using mem⟩
    · rw [List.intercalate_cons_of_ne_nil last, List.mem_append, List.mem_append] at mem
      rcases mem with (here | separates) | later
      · exact .inr ⟨part, List.mem_cons_self, here⟩
      · exact .inl separates
      · exact (ih later).imp_right fun ⟨other, among, within⟩ =>
          ⟨other, List.mem_cons_of_mem _ among, within⟩

def joined (sep : Char) (base : Nat) (ns : List Nat) : List Char :=
  [sep].intercalate (ns.map (Nat.toDigits base))

theorem toList_joined {between : String} (single : between.toList = [sep]) {write : Nat → String}
    (written : ∀ n, (write n).toList = Nat.toDigits base n) (ns : List Nat) :
    (between.intercalate (ns.map write)).toList = joined sep base ns := by
  have each : String.toList ∘ write = Nat.toDigits base := funext written
  rw [String.toList_intercalate, List.map_map, each, single, joined]

theorem mem_joined (large : 1 < base) (mem : c ∈ joined sep base ns) :
    c = sep ∨ ∃ d < base, c = d.digitChar := by
  obtain separates | ⟨part, among, inside⟩ := mem_intercalate mem
  · exact .inl (List.mem_singleton.mp separates)
  · obtain ⟨n, -, rfl⟩ := List.mem_map.mp among
    exact .inr (mem_toDigits large inside)

theorem not_mem_joined (large : 1 < base) (other : c ≠ sep) (apart : ∀ d < base, d.digitChar ≠ c)
    (ns : List Nat) : c ∉ joined sep base ns := by
  intro mem
  rcases mem_joined large mem with same | ⟨d, below, same⟩
  · exact other same
  · exact apart d below same.symm

theorem pieces_joined (large : 1 < base) (apart : ∀ d < base, d.digitChar ≠ sep) (some : ns ≠ []) :
    pieces sep (joined sep base ns) = ns.map (Nat.toDigits base) := by
  apply pieces_intercalate
  · intro part among
    obtain ⟨n, -, rfl⟩ := List.mem_map.mp among
    exact not_mem_toDigits large apart n
  · simpa using some

theorem eachPiece?_eq_mapM' (read : List Char → Option Nat) (parts : List (List Char)) :
    eachPiece? read parts = parts.mapM' read := by
  induction parts with
  | nil => rfl
  | cons part more ih => rw [eachPiece?, List.mapM'_cons, ih]

end Joined

section Plain

def IsPlain (c : Char) : Prop := isBlank c = false ∧ c ≠ '/'

instance : DecidablePred IsPlain := fun c => inferInstanceAs (Decidable (isBlank c = false ∧ c ≠ '/'))

theorem isPlain_digitChar : ∀ d < 16, IsPlain d.digitChar := by decide

theorem isPlain_of_mem_toDigits (large : 1 < base) (small : base ≤ 16)
    (mem : c ∈ Nat.toDigits base n) : IsPlain c := by
  obtain ⟨d, below, rfl⟩ := mem_toDigits large mem
  exact isPlain_digitChar d (by omega)

theorem isPlain_of_mem_joined (large : 1 < base) (small : base ≤ 16) (plain : IsPlain sep)
    (mem : c ∈ joined sep base ns) : IsPlain c := by
  rcases mem_joined large mem with rfl | ⟨d, below, rfl⟩
  · exact plain
  · exact isPlain_digitChar d (by omega)

end Plain

section Dotted

theorem toList_dotted (bits : BitVec 32) : (dotted bits).toList = joined '.' 10 (octets bits) :=
  toList_joined (by simp) (fun _ => String.toList_ofList) _

theorem octets?_dotted (bits : BitVec 32) : octets? (dotted bits).toList = some (octets bits) := by
  have four : octets bits ≠ [] := by simp [octets]
  have each : ((octets bits).map (Nat.toDigits 10)).mapM' octet? = some (octets bits) :=
    mapM'_map fun n mem => octet?_toDigits (octet_lt mem)
  rw [octets?, toList_dotted, pieces_joined (by decide) (by decide) four, eachPiece?_eq_mapM', each]
  simp [length_octets]

theorem octets?_of_colon (colon : ':' ∈ cs) : octets? cs = none := by
  have held : ':' = '.' ∨ ∃ piece ∈ pieces '.' cs, ':' ∈ piece := mem_pieces colon
  obtain point | ⟨piece, among, within⟩ := held
  · cases point
  have unread : octet? piece = none := by
    rw [octet?, digits?_eq_mapM', mapM'_eq_none within (by decide)]
    rfl
  rw [octets?, eachPiece?_eq_mapM', mapM'_eq_none among unread]
  rfl

theorem octets?_of_not_point (absent : '.' ∉ cs) : octets? cs = none := by
  rw [octets?, pieces_of_not_mem absent, eachPiece?, eachPiece?]
  cases octet? cs <;> rfl

theorem not_mem_dotted (bits : BitVec 32) : ':' ∉ (dotted bits).toList := by
  rw [toList_dotted]
  exact not_mem_joined (by decide) (by decide) (by decide) _

theorem isPlain_of_mem_dotted {bits : BitVec 32} (mem : c ∈ (dotted bits).toList) : IsPlain c := by
  rw [toList_dotted] at mem
  exact isPlain_of_mem_joined (by decide) (by decide) (by decide) mem

end Dotted

section Colons

abbrev colons (gs : List Nat) : List Char := joined ':' 16 gs

theorem toList_colonGroups (gs : List Nat) : (colonGroups gs).toList = colons gs :=
  toList_joined (by simp) (fun _ => String.toList_ofList) gs

theorem colon_not_mem (n : Nat) : ':' ∉ Nat.toDigits 16 n := not_mem_toDigits (by decide) (by decide) n

theorem point_not_mem (n : Nat) : '.' ∉ Nat.toDigits 16 n := not_mem_toDigits (by decide) (by decide) n

theorem colons_cons_cons (n m : Nat) (gs : List Nat) :
    colons (n :: m :: gs) = Nat.toDigits 16 n ++ ':' :: colons (m :: gs) := by
  simp [colons, joined, List.intercalate_cons_cons]

theorem colons_eq_nil_iff : colons gs = [] ↔ gs = [] := by
  constructor
  · intro empty
    rcases gs with _ | ⟨n, _ | ⟨m, gs⟩⟩
    · rfl
    · rw [colons, joined, List.map_singleton, List.intercalate_singleton] at empty
      exact absurd empty Nat.toDigits_ne_nil
    · rw [colons_cons_cons] at empty
      simp at empty
  · rintro rfl
    rfl

theorem exists_colons (n : Nat) (gs : List Nat) :
    ∃ c tail, colons (n :: gs) = c :: tail ∧ c ≠ ':' := by
  obtain ⟨c, digits, written⟩ := List.exists_cons_of_ne_nil (Nat.toDigits_ne_nil (n := n) (b := 16))
  have other : c ≠ ':' := by
    rintro rfl
    exact colon_not_mem n (written ▸ List.mem_cons_self)
  cases gs with
  | nil =>
    refine ⟨c, digits, ?_, other⟩
    rw [colons, joined, List.map_singleton, List.intercalate_singleton, written]
  | cons m gs =>
    refine ⟨c, digits ++ ':' :: colons (m :: gs), ?_, other⟩
    rw [colons_cons_cons, written, List.cons_append]

theorem pieces_colons (some : gs ≠ []) : pieces ':' (colons gs) = gs.map (Nat.toDigits 16) :=
  pieces_joined (by decide) (by decide) some

theorem plainGroups?_colons (fit : ∀ n ∈ gs, n < 65536) : plainGroups? (colons gs) = some gs := by
  rw [plainGroups?]
  by_cases empty : gs = []
  · subst empty
    rfl
  · rw [if_neg (colons_eq_nil_iff.not.mpr empty), pieces_colons empty, eachPiece?_eq_mapM']
    exact mapM'_map fun n mem => group?_toDigits (fit n mem)

theorem groupsOfPieces?_map (fit : ∀ n ∈ gs, n < 65536) :
    groupsOfPieces? (gs.map (Nat.toDigits 16)) = some gs := by
  induction gs with
  | nil => rfl
  | cons n more ih =>
    obtain ⟨first, later⟩ := List.forall_mem_cons.mp fit
    cases more with
    | nil =>
      have other : embedded? (Nat.toDigits 16 n) = none := by
        rw [embedded?, octets?_of_not_point (point_not_mem n)]
        rfl
      rw [List.map_singleton, groupsOfPieces?, other, group?_toDigits first]
      rfl
    | cons m more =>
      rw [List.map_cons, List.map_cons, groupsOfPieces?, group?_toDigits first, ← List.map_cons,
        ih later]
      · rfl
      · simp

theorem endingGroups?_colons (fit : ∀ n ∈ gs, n < 65536) : endingGroups? (colons gs) = some gs := by
  rw [endingGroups?]
  by_cases empty : gs = []
  · subst empty
    rfl
  · rw [if_neg (colons_eq_nil_iff.not.mpr empty), pieces_colons empty, groupsOfPieces?_map fit]

theorem doubleColon?_append (absent : ':' ∉ cs) (rest : List Char) :
    doubleColon? (cs ++ rest) =
      (doubleColon? rest).map fun (before, after) => (cs ++ before, after) := by
  induction cs with
  | nil => simp
  | cons c cs ih =>
    obtain ⟨other, later⟩ := List.ne_and_not_mem_of_not_mem_cons absent
    rw [List.cons_append, doubleColon?, ih later, Option.map_map]
    · rfl
    · intro _ colon
      exact absurd colon.symm other

theorem doubleColon?_colons (gs : List Nat) (rest : List Char) :
    doubleColon? (colons gs ++ rest) =
      (doubleColon? rest).map fun (before, after) => (colons gs ++ before, after) := by
  induction gs with
  | nil => simp [colons, joined]
  | cons n more ih =>
    cases more with
    | nil =>
      rw [colons, joined, List.map_singleton, List.intercalate_singleton]
      exact doubleColon?_append (colon_not_mem n) rest
    | cons m more =>
      obtain ⟨c, tail, begins, other⟩ := exists_colons m more
      have apart : doubleColon? (':' :: (colons (m :: more) ++ rest)) =
          (doubleColon? (colons (m :: more) ++ rest)).map fun (before, after) =>
            (':' :: before, after) := by
        rw [doubleColon?]
        intro after _ colon
        rw [begins, List.cons_append] at colon
        exact other (List.cons.inj colon).1
      rw [colons_cons_cons, List.append_assoc, doubleColon?_append (colon_not_mem n),
        List.cons_append, apart, ih]
      simp [Option.map_map, Function.comp_def]

theorem not_mem_colons (gs : List Nat) : '.' ∉ colons gs :=
  not_mem_joined (by decide) (by decide) (by decide) gs

theorem isPlain_of_mem_colons (mem : c ∈ colons gs) : IsPlain c :=
  isPlain_of_mem_joined (by decide) (by decide) (by decide) mem

end Colons

section Zeros

theorem eq_leadingZeros (gs : List Nat) :
    ∃ back, gs = List.replicate (leadingZeros gs) 0 ++ back := by
  fun_induction leadingZeros gs with
  | case1 rest ih =>
    obtain ⟨back, split⟩ := ih
    refine ⟨back, ?_⟩
    rw [List.replicate_succ, List.cons_append, ← split]
  | case2 gs => exact ⟨gs, rfl⟩

theorem eq_longestZeros (gs : List Nat) :
    ∃ front back, gs = front ++ List.replicate (longestZeros gs).2 0 ++ back ∧
      front.length = (longestZeros gs).1 := by
  induction gs with
  | nil => exact ⟨[], [], rfl, rfl⟩
  | cons n rest ih =>
    rw [longestZeros]
    dsimp only
    split
    · obtain ⟨back, split⟩ := eq_leadingZeros (n :: rest)
      exact ⟨[], back, split, rfl⟩
    · obtain ⟨front, back, split, start⟩ := ih
      refine ⟨n :: front, back, ?_, congrArg (· + 1) start⟩
      rw [List.cons_append, List.cons_append, ← split]

/-- All groups are printed, or those before and behind a run of zeros. -/
theorem toList_printGroups (gs : List Nat) :
    (printGroups gs).toList = colons gs ∨
      ∃ front length back, gs = front ++ List.replicate length 0 ++ back ∧ 2 ≤ length ∧
        (printGroups gs).toList = colons front ++ ':' :: ':' :: colons back := by
  obtain ⟨front, back, whole, start⟩ := eq_longestZeros gs
  rw [printGroups]
  dsimp only
  split
  · exact .inl (toList_colonGroups gs)
  · next long =>
    refine .inr ⟨front, (longestZeros gs).2, back, whole, by omega, ?_⟩
    have before : gs.take (longestZeros gs).1 = front := by
      rw [← start, whole, List.append_assoc, List.take_left]
    have behind : gs.drop ((longestZeros gs).1 + (longestZeros gs).2) = back := by
      have length : (front ++ List.replicate (longestZeros gs).2 0).length =
          (longestZeros gs).1 + (longestZeros gs).2 := by simp [start]
      rw [← length]
      nth_rewrite 2 [whole]
      exact List.drop_left
    rw [before, behind, String.toList_append, String.toList_append, toList_colonGroups,
      toList_colonGroups, List.append_assoc]
    rfl

theorem groups?_printGroups (fit : ∀ n ∈ gs, n < 65536) (eight : gs.length = 8) :
    groups? (printGroups gs).toList = some gs := by
  obtain plain | ⟨front, length, back, whole, long, shortened⟩ := toList_printGroups gs
  · have single : doubleColon? (colons gs) = none := by
      simpa [doubleColon?] using doubleColon?_colons gs []
    rw [plain, groups?, single]
    simp [endingGroups?_colons fit, eight]
  · have double : doubleColon? (colons front ++ ':' :: ':' :: colons back) =
        some (colons front, colons back) := by
      rw [doubleColon?_colons]
      simp [doubleColon?]
    have head : plainGroups? (colons front) = some front :=
      plainGroups?_colons fun n mem => fit n (by simp [whole, mem])
    have tail : endingGroups? (colons back) = some back :=
      endingGroups?_colons fun n mem => fit n (by simp [whole, mem])
    have count : front.length + length + back.length = 8 := by
      simpa [whole, Nat.add_assoc] using eight
    have few : front.length + back.length ≤ 7 := by omega
    have gap : 8 - (front.length + back.length) = length := by omega
    rw [shortened, groups?, double]
    simp [head, tail, few, gap, whole]

theorem not_mem_printGroups (gs : List Nat) : '.' ∉ (printGroups gs).toList := by
  obtain plain | ⟨front, length, back, -, -, shortened⟩ := toList_printGroups gs
  · rw [plain]
    exact not_mem_colons gs
  · rw [shortened]
    simp [not_mem_colons]

theorem isPlain_of_mem_printGroups (mem : c ∈ (printGroups gs).toList) : IsPlain c := by
  obtain plain | ⟨front, length, back, -, -, shortened⟩ := toList_printGroups gs
  · rw [plain] at mem
    exact isPlain_of_mem_colons mem
  · rw [shortened] at mem
    rcases List.mem_append.mp mem with before | behind
    · exact isPlain_of_mem_colons before
    · simp only [List.mem_cons] at behind
      rcases behind with rfl | rfl | behind
      · decide
      · decide
      · exact isPlain_of_mem_colons behind

end Zeros

namespace Address

theorem isPlain_of_mem_print (mem : c ∈ a.print.toList) : IsPlain c := by
  cases a with
  | v4 bits => exact isPlain_of_mem_dotted mem
  | v6 bits =>
    rw [print] at mem
    split at mem
    · rw [String.toList_append] at mem
      rcases List.mem_append.mp mem with start | inner
      · have plain : ∀ c ∈ "::ffff:".toList, IsPlain c := by simp [IsPlain, isBlank]
        exact plain c start
      · exact isPlain_of_mem_dotted inner
    · exact isPlain_of_mem_printGroups mem

theorem groups?_mapped (inner : BitVec 32) :
    groups? ("::ffff:" ++ dotted inner).toList =
      some (List.replicate 5 0 ++ [0xFFFF, ofDigits 256 ((octets inner).take 2),
        ofDigits 256 ((octets inner).drop 2)]) := by
  have text : ("::ffff:" ++ dotted inner).toList =
      ':' :: ':' :: 'f' :: 'f' :: 'f' :: 'f' :: ':' :: (dotted inner).toList := by simp
  have double : doubleColon? ("::ffff:" ++ dotted inner).toList =
      some ([], 'f' :: 'f' :: 'f' :: 'f' :: ':' :: (dotted inner).toList) := by rw [text, doubleColon?]
  have split : pieces ':' ('f' :: 'f' :: 'f' :: 'f' :: ':' :: (dotted inner).toList) =
      [['f', 'f', 'f', 'f'], (dotted inner).toList] := by
    simp [pieces, pieces_of_not_mem (not_mem_dotted inner)]
  have first : group? ['f', 'f', 'f', 'f'] = some 0xFFFF := by decide
  have last : embedded? (dotted inner).toList =
      some [ofDigits 256 ((octets inner).take 2), ofDigits 256 ((octets inner).drop 2)] := by
    rw [embedded?, octets?_dotted]
    rfl
  rw [groups?, double]
  simp [plainGroups?, endingGroups?, split, groupsOfPieces?, first, last]

theorem parseChars?_print (a : Address) : parseChars? a.print.toList = some a := by
  cases a with
  | v4 bits => simp [parseChars?, print, octets?_dotted, ofOctets_octets]
  | v6 bits =>
    rw [print, parseChars?]
    -- An IPv4 address is looked for first: there is none in a text with a colon or without a dot.
    split
    · next inner mapped =>
      have colon : ':' ∈ ("::ffff:" ++ dotted inner).toList := by simp
      rw [octets?_of_colon colon, groups?_mapped, Option.map_some, ofGroups_mapped mapped]
      rfl
    · rw [octets?_of_not_point (not_mem_printGroups _),
        groups?_printGroups (fun n => group_lt) (length_groups bits)]
      simp [ofGroups_groups]

end Address

namespace Block

/-- The texts of a block: what is printed for it, or its address alone where the length is that of a
whole address, with any blanks around. -/
def IsText (b : Block) (text : String) : Prop :=
  IsPadded text.toList b.print.toList ∨
    b.length = b.family.width ∧ IsPadded text.toList b.address.print.toList

theorem toList_print (b : Block) :
    b.print.toList = b.address.print.toList ++ '/' :: Nat.toDigits 10 b.length := by
  have text : b.print = b.address.print ++ "/" ++ String.ofList (Nat.toDigits 10 b.length) := rfl
  simp [text]

theorem isBlank_of_mem_print (mem : c ∈ b.print.toList) : isBlank c = false := by
  rw [toList_print] at mem
  rcases List.mem_append.mp mem with address | behind
  · exact (Address.isPlain_of_mem_print address).1
  · rcases List.mem_cons.mp behind with rfl | length
    · decide
    · exact (isPlain_of_mem_toDigits (by decide) (by decide) length).1

theorem parse_of_isText {text : String} (written : b.IsText text) : parse text = .ok b := by
  have unslashed : '/' ∉ b.address.print.toList := fun mem =>
    (Address.isPlain_of_mem_print mem).2 rfl
  rw [parse]
  rcases written with padded | ⟨whole, padded⟩
  · have length : numeral 255 (String.ofList (Nat.toDigits 10 b.length)) = .ok b.length := by
      apply numeral_toDigits
      have bound := b.length_le_width
      cases h : b.address.family <;> simp [h, Family.width] at bound <;> omega
    rw [strip_of_isPadded padded, strip_eq_self fun c => isBlank_of_mem_print, toList_print,
      cut?_append unslashed]
    dsimp only
    rw [Address.parseChars?_print, length]
    exact b.make_self
  · rw [strip_of_isPadded padded,
      strip_eq_self fun c mem => (Address.isPlain_of_mem_print mem).1, cut?_of_not_mem unslashed]
    dsimp only
    rw [Address.parseChars?_print]
    have made := b.make_self
    rwa [whole] at made

end Block

end AddressSync
