import AddressSync.Domain
import Mathlib.Data.List.Basic
import Mathlib.Data.String.Basic

/-! The order of domains, and what is left of a list that was put in order and whose repetitions were
dropped: the same domains, each of them before all that come later. -/

namespace AddressSync.Domain

variable {a b c d : Domain} {domains : List Domain}

section Before

theorem before_irrefl (d : Domain) : d.before d = false := by
  cases d <;> exact decide_eq_false (String.lt_irrefl _)

theorem before_trans (first : a.before b = true) (later : b.before c = true) :
    a.before c = true := by
  cases a <;> cases b <;> cases c <;> simp only [before, decide_eq_true_eq] at *
  case plain.plain.plain | wildcard.wildcard.wildcard => exact String.lt_trans first later
  all_goals contradiction

theorem eq_of_not_before (here : a.before b = false) (there : b.before a = false) : a = b := by
  cases a <;> cases b <;> simp only [before, decide_eq_false_iff_not, String.not_lt] at here there
  case plain.plain | wildcard.wildcard => rw [String.le_antisymm there here]
  all_goals contradiction

theorem before_of_before_of_not_before (first : a.before b = true) (later : c.before b = false) :
    a.before c = true := by
  cases between : b.before c with
  | true => exact before_trans first between
  | false => rwa [eq_of_not_before later between]

end Before

section Sorted

theorem mem_sort : d ∈ sort domains ↔ d ∈ domains := List.mem_mergeSort

theorem pairwise_sort (domains : List Domain) :
    (sort domains).Pairwise fun a b => b.before a = false := by
  have trans : ∀ a b c : Domain, (!b.before a) = true → (!c.before b) = true →
      (!c.before a) = true := by
    intro a b c first later
    simp only [Bool.not_eq_true'] at first later ⊢
    refine Bool.eq_false_iff.mpr fun back => ?_
    rw [before_of_before_of_not_before back first] at later
    cases later
  have total : ∀ a b : Domain, (!b.before a || !a.before b) = true := by
    intro a b
    rw [← Bool.not_and, Bool.not_eq_true', Bool.eq_false_iff, Ne, Bool.and_eq_true]
    intro ⟨here, there⟩
    have self := before_trans here there
    rw [before_irrefl] at self
    cases self
  exact (List.pairwise_mergeSort trans total domains).imp fun kept => by simpa using kept

theorem mem_dropRepeats : d ∈ dropRepeats domains ↔ d ∈ domains := by
  fun_induction dropRepeats domains with
  | case1 b rest ih => simp [ih]
  | case2 a b rest other ih => rw [List.mem_cons, ih, ← List.mem_cons]
  | case3 => rfl

theorem pairwise_dropRepeats (sorted : domains.Pairwise fun a b => b.before a = false) :
    (dropRepeats domains).Pairwise fun a b => a.before b = true := by
  fun_induction dropRepeats domains with
  | case1 b rest ih => exact ih sorted.tail
  | case2 a b rest other ih =>
    obtain ⟨least, sorted⟩ := List.pairwise_cons.mp sorted
    refine List.pairwise_cons.mpr ⟨fun d mem => ?_, ih sorted⟩
    have first : a.before b = true := by
      cases here : a.before b with
      | true => rfl
      | false => exact absurd (eq_of_not_before here (least b List.mem_cons_self)) other
    rcases List.mem_cons.mp (mem_dropRepeats.mp mem) with rfl | later
    · exact first
    · exact before_of_before_of_not_before first (List.rel_of_pairwise_cons sorted later)
  | case3 short long =>
    cases short with
    | nil => exact .nil
    | cons d rest =>
      cases rest with
      | nil => exact List.pairwise_singleton _ d
      | cons => exact absurd rfl (long _ _ _)

end Sorted

end AddressSync.Domain
