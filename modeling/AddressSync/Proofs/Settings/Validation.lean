import AddressSync.Settings
import Mathlib.Data.List.Basic
import Mathlib.Tactic.SplitIfs

/-! Which configurations are without a flaw, and what is so when one of their families is complained
of. -/

namespace AddressSync

namespace Settings

variable {s : Settings} {family : Family} {ε α : Type}

theorem forM_eq_ok_iff {f : α → Except ε Unit} {as : List α} :
    as.forM f = .ok () ↔ ∀ a ∈ as, f a = .ok () := by
  induction as with
  | nil => exact ⟨fun _ _ mem => absurd mem List.not_mem_nil, fun _ => rfl⟩
  | cons a as ih =>
    change (f a >>= fun _ => as.forM f) = .ok () ↔ _
    rw [List.forall_mem_cons, ← ih]
    cases f a with
    | error e => exact ⟨nofun, fun h => nomatch h.1⟩
    | ok u => exact ⟨fun h => ⟨rfl, h⟩, And.right⟩

theorem exists_of_forM_eq_error {f : α → Except ε Unit} {as : List α} {e : ε}
    (failed : as.forM f = .error e) : ∃ a ∈ as, f a = .error e := by
  induction as with
  | nil => cases failed
  | cons a as ih =>
    change (f a >>= fun _ => as.forM f) = .error e at failed
    cases first : f a with
    | error e' =>
      rw [first] at failed
      cases failed
      exact ⟨a, List.mem_cons_self, first⟩
    | ok u =>
      rw [first] at failed
      obtain ⟨a', mem, failed⟩ := ih failed
      exact ⟨a', List.mem_cons_of_mem _ mem, failed⟩

/-- A configuration is refused for the first flaw that is found, in the order of the questions. -/
theorem validate_eq (s : Settings) : s.validate =
    match s.access.validate with
    | .error flaw => .error flaw
    | .ok () =>
      if s.domainCount = 0 ∧ s.lists = [] then .error .nothingToManage
      else match s.orphans with
        | family :: _ => .error (.disabledFamily family)
        | [] =>
          if s.attributes.ttl ≠ 1 ∧ ¬(30 ≤ s.attributes.ttl ∧ s.attributes.ttl ≤ 86400) then
            .error (.recordLifetime s.attributes.ttl)
          else match s.lists.forM ListTarget.validate with
            | .error flaw => .error flaw
            | .ok () => s.timing.validate := by
  unfold validate
  simp only [Bind.bind, Except.bind, throw, throwThe, MonadExceptOf.throw]
  cases s.access.validate with
  | error => rfl
  | ok =>
    dsimp only
    split
    · rfl
    · cases s.orphans with
      | cons => rfl
      | nil =>
        dsimp only
        split
        · rfl
        · cases s.lists.forM ListTarget.validate <;> rfl

structure Flawless (s : Settings) : Prop where
  access : s.access.validate = .ok ()
  managed : ¬(s.domainCount = 0 ∧ s.lists = [])
  detected : s.orphans = []
  ttl : s.attributes.ttl = 1 ∨ 30 ≤ s.attributes.ttl ∧ s.attributes.ttl ≤ 86400
  lists : ∀ l ∈ s.lists, l.validate = .ok ()
  timing : s.timing.validate = .ok ()

theorem validate_eq_ok_iff : s.validate = .ok () ↔ s.Flawless := by
  rw [validate_eq]
  constructor
  · intro valid
    split at valid
    · cases valid
    next access =>
    split at valid
    · cases valid
    next managed =>
    split at valid
    · cases valid
    next detected =>
    split at valid
    · cases valid
    next ttl =>
    split at valid
    · cases valid
    next lists =>
    exact ⟨access, managed, detected, by simpa [or_iff_not_imp_left] using ttl,
      forM_eq_ok_iff.mp lists, valid⟩
  · rintro ⟨access, managed, detected, ttl, lists, timing⟩
    have ttl : ¬(s.attributes.ttl ≠ 1 ∧
        ¬(30 ≤ s.attributes.ttl ∧ s.attributes.ttl ≤ 86400)) := by
      simpa [or_iff_not_imp_left] using ttl
    rw [access, detected, forM_eq_ok_iff.mpr lists, timing]
    dsimp only
    rw [if_neg managed, if_neg ttl]

end Settings

theorem Timing.validate_eq_ok_iff {t : Timing} : t.validate = .ok () ↔
    t.interval ≠ 0 ∧ t.detectionLimit ≠ 0 ∧ t.updateLimit ≠ 0 ∧ t.eventCapacity ≠ 0 := by
  rw [validate]
  split_ifs <;> simp_all

namespace Settings

variable {s : Settings} {family : Family}

theorem accessValidate_ne (a : Access) : a.validate ≠ .error (.disabledFamily family) := by
  rw [Access.validate]
  split <;> nofun

theorem targetValidate_ne (l : ListTarget) : l.validate ≠ .error (.disabledFamily family) := by
  rw [ListTarget.validate]
  split_ifs <;> nofun

theorem timingValidate_ne (t : Timing) : t.validate ≠ .error (.disabledFamily family) := by
  rw [Timing.validate]
  split_ifs <;> nofun

theorem mem_orphans_of_validate (refused : s.validate = .error (.disabledFamily family)) :
    family ∈ s.orphans := by
  rw [validate_eq] at refused
  split at refused
  · next failed =>
    cases refused
    exact absurd failed (accessValidate_ne _)
  split at refused
  · cases refused
  split at refused
  · next orphans =>
    cases refused
    exact orphans ▸ List.mem_cons_self
  split at refused
  · cases refused
  split at refused
  · next failed =>
    cases refused
    obtain ⟨l, -, failed⟩ := exists_of_forM_eq_error failed
    exact absurd failed (targetValidate_ne l)
  · exact absurd refused (timingValidate_ne _)

end Settings

end AddressSync
