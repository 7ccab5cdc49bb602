import AddressSync.Text.Blank
import Mathlib.Data.List.DropRight

/-! What is left of a text at whose ends something was dropped, what its pieces hold, and where it
is cut. -/

namespace AddressSync.Text

variable {cs start rest : List Char} {c sep : Char}

theorem dropTrailing_eq_rdropWhile (p : Char → Bool) (cs : List Char) :
    dropTrailing p cs = cs.rdropWhile p := rfl

theorem dropTrailing_map {p : Char → Bool} {f : Char → Char} (same : ∀ c, p (f c) = p c)
    (cs : List Char) : dropTrailing p (cs.map f) = (dropTrailing p cs).map f := by
  have through : p ∘ f = p := funext same
  rw [dropTrailing, ← List.map_reverse, List.dropWhile_map, through, ← List.map_reverse]
  rfl

theorem strip_eq_self (none : ∀ c ∈ cs, isBlank c = false) : strip cs = cs := by
  have kept : cs.dropWhile isBlank = cs := by
    rw [List.dropWhile_eq_self_iff]
    intro _ blank
    rw [none _ (List.getElem_mem _)] at blank
    cases blank
  rw [strip, kept, dropTrailing_eq_rdropWhile, List.rdropWhile_eq_self_iff]
  intro _ blank
  rw [none _ (List.getLast_mem _)] at blank
  cases blank

theorem strip_eq_nil_iff : strip cs = [] ↔ ∀ c ∈ cs, isBlank c = true := by
  rw [strip, dropTrailing_eq_rdropWhile, List.rdropWhile_eq_nil_iff]
  constructor
  · intro all
    rw [← List.dropWhile_eq_nil_iff]
    by_contra some
    have first := List.head_dropWhile_not isBlank some
    rw [all _ (List.head_mem some)] at first
    cases first
  · intro all
    rw [List.dropWhile_eq_nil_iff.mpr all]
    exact List.forall_mem_nil _

theorem trim_eq_empty_iff {text : String} : trim text = "" ↔ text.toList.all isBlank = true := by
  rw [trim, List.all_eq_true, ← strip_eq_nil_iff, ← String.toList_inj, String.toList_ofList]
  rfl

def IsPadded (text cs : List Char) : Prop :=
  ∃ front back, text = front ++ cs ++ back ∧ ∀ c ∈ front ++ back, isBlank c = true

theorem isPadded_self (cs : List Char) : IsPadded cs cs := ⟨[], [], by simp, List.forall_mem_nil _⟩

theorem isPadded_return (line : List Char) : IsPadded (line ++ ['\r']) line :=
  ⟨[], ['\r'], rfl, List.forall_mem_singleton.mpr rfl⟩

theorem dropTrailing_append_of_pos {p : Char → Bool} {back : List Char} (all : ∀ c ∈ back, p c)
    (cs : List Char) : dropTrailing p (cs ++ back) = dropTrailing p cs := by
  have all : ∀ c ∈ back.reverse, p c := by simpa using all
  rw [dropTrailing, dropTrailing, List.reverse_append, List.dropWhile_append_of_pos all]

theorem strip_of_isPadded {text : List Char} (padded : IsPadded text cs) : strip text = strip cs := by
  obtain ⟨front, back, rfl, blank⟩ := padded
  obtain ⟨before, behind⟩ := List.forall_mem_append.mp blank
  rw [strip, List.append_assoc, List.dropWhile_append_of_pos before, List.dropWhile_append]
  split
  · next gone =>
    have all : back.dropWhile isBlank = [] := List.dropWhile_eq_nil_iff.mpr behind
    rw [all, strip, List.isEmpty_iff.mp gone]
  · rw [dropTrailing_append_of_pos behind, strip]

theorem pieces_eq_splitOn (sep : Char) (cs : List Char) : pieces sep cs = cs.splitOn sep := by
  induction cs with
  | nil => rfl
  | cons c rest ih =>
    rw [pieces, List.splitOn_cons_eq_if_modifyHead, ih]
    by_cases same : c = sep
    · simp [same]
    · have other : (c == sep) = false := beq_false_of_ne same
      obtain ⟨piece, more, split⟩ := List.exists_cons_of_ne_nil (List.splitOn_ne_nil sep rest)
      simp [same, other, split]

theorem pieces_intercalate {parts : List (List Char)} (apart : ∀ part ∈ parts, sep ∉ part)
    (some : parts ≠ []) : pieces sep ([sep].intercalate parts) = parts := by
  rw [pieces_eq_splitOn, List.splitOn_intercalate sep apart some]

theorem pieces_of_not_mem (absent : sep ∉ cs) : pieces sep cs = [cs] := by
  rw [pieces_eq_splitOn, List.splitOn_eq_singleton absent]

theorem pieces_map {f : Char → Char} (same : ∀ c, f c = sep ↔ c = sep) (cs : List Char) :
    pieces sep (cs.map f) = (pieces sep cs).map (List.map f) := by
  induction cs with
  | nil => rfl
  | cons c rest ih =>
    rw [List.map_cons, pieces, pieces, ih]
    by_cases here : c = sep
    · simp [here, (same sep).mpr rfl]
    · have kept : f c ≠ sep := fun moved => here ((same c).mp moved)
      rw [if_neg here, if_neg kept]
      cases pieces sep rest <;> rfl

theorem cut?_of_not_mem (absent : sep ∉ cs) : cut? sep cs = none := by
  induction cs with
  | nil => rfl
  | cons c rest ih =>
    obtain ⟨other, later⟩ := List.ne_and_not_mem_of_not_mem_cons absent
    rw [cut?, if_neg (Ne.symm other), ih later]
    rfl

theorem cut?_append (absent : sep ∉ start) (rest : List Char) :
    cut? sep (start ++ sep :: rest) = some (start, rest) := by
  induction start with
  | nil => exact if_pos rfl
  | cons c start ih =>
    obtain ⟨other, later⟩ := List.ne_and_not_mem_of_not_mem_cons absent
    rw [List.cons_append, cut?, if_neg (Ne.symm other), ih later]
    rfl

theorem eq_append_of_cut? {front : List Char}
    (found : cut? sep cs = some (front, rest)) : cs = front ++ sep :: rest ∧ sep ∉ front := by
  induction cs generalizing front with
  | nil => cases found
  | cons c cs ih =>
    rw [cut?] at found
    split at found
    · next here =>
      cases found
      exact ⟨by rw [here]; rfl, List.not_mem_nil⟩
    · next other =>
      obtain ⟨⟨before, after⟩, later, same⟩ := Option.map_eq_some_iff.mp found
      cases same
      obtain ⟨split, absent⟩ := ih later
      exact ⟨congrArg (c :: ·) split, List.not_mem_cons_of_ne_of_not_mem (Ne.symm other) absent⟩

theorem mem_pieces (mem : c ∈ cs) : c = sep ∨ ∃ piece ∈ pieces sep cs, c ∈ piece := by
  fun_induction pieces sep cs with
  | case1 => cases mem
  | case2 rest ih =>
    rcases List.mem_cons.mp mem with rfl | later
    · exact .inl rfl
    · exact (ih later).imp_right fun ⟨piece, among, within⟩ =>
        ⟨piece, List.mem_cons_of_mem _ among, within⟩
  | case3 first rest other none ih =>
    rcases List.mem_cons.mp mem with rfl | later
    · exact .inr ⟨_, List.mem_cons_self, List.mem_cons_self⟩
    · rw [none] at ih
      exact (ih later).imp_right fun ⟨_, among, _⟩ => nomatch among
  | case4 first rest other front more split ih =>
    rcases List.mem_cons.mp mem with rfl | later
    · exact .inr ⟨_, List.mem_cons_self, List.mem_cons_self⟩
    refine (ih later).imp_right fun ⟨piece, among, within⟩ => ?_
    rw [split] at among
    rcases List.mem_cons.mp among with rfl | among
    · exact ⟨_, List.mem_cons_self, List.mem_cons_of_mem _ within⟩
    · exact ⟨piece, List.mem_cons_of_mem _ among, within⟩

theorem not_mem_of_mem_pieces {piece : List Char} (mem : piece ∈ pieces sep cs) : sep ∉ piece := by
  fun_induction pieces sep cs generalizing piece with
  | case1 =>
    rw [List.mem_singleton.mp mem]
    exact List.not_mem_nil
  | case2 rest ih =>
    rcases List.mem_cons.mp mem with rfl | later
    · exact List.not_mem_nil
    · exact ih later
  | case3 c rest other none ih =>
    rw [List.mem_singleton.mp mem, List.mem_singleton]
    exact Ne.symm other
  | case4 c rest other first more split ih =>
    rw [split] at ih
    obtain ⟨first, later⟩ := List.forall_mem_cons.mp fun piece => ih
    rcases List.mem_cons.mp mem with rfl | among
    · exact List.not_mem_cons_of_ne_of_not_mem (Ne.symm other) first
    · exact later _ among

theorem eq_append_of_after? (starts : after? start cs = some rest) : cs = start ++ rest := by
  induction start generalizing cs with
  | nil => exact Option.some.inj starts
  | cons p start ih =>
    cases cs with
    | nil => cases starts
    | cons c cs =>
      rw [after?] at starts
      split at starts
      · next same => exact same ▸ congrArg (p :: ·) (ih starts)
      · cases starts

theorem after?_eq_some_iff : after? start cs = some rest ↔ cs = start ++ rest := by
  refine ⟨eq_append_of_after?, ?_⟩
  rintro rfl
  induction start with
  | nil => rfl
  | cons c start ih => rwa [List.cons_append, after?, if_pos rfl]

end AddressSync.Text
