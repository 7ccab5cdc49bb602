import AddressSync.Proofs.Cache.Holds

/-! Two caches that have the like of each other under the same keys, and the operations on both that
leave it so. -/

theorem Option.Rel.map {α β γ δ : Type} {R : α → β → Prop} {S : γ → δ → Prop} {f : α → γ}
    {g : β → δ} {a : Option α} {b : Option β} (h : Option.Rel R a b)
    (same : ∀ a b, R a b → S (f a) (g b)) : Option.Rel S (a.map f) (b.map g) := by
  cases h with
  | some related => exact .some (same _ _ related)
  | none => exact .none

theorem Option.Rel.imp {α β : Type} {R S : α → β → Prop} {a : Option α} {b : Option β}
    (h : Option.Rel R a b) (weaken : ∀ x y, a = Option.some x → b = Option.some y → R x y → S x y) :
    Option.Rel S a b := by
  cases h with
  | some related => exact .some (weaken _ _ rfl rfl related)
  | none => exact .none

namespace AddressSync.Cache

variable {κ ν ν' : Type} [DecidableEq κ] {c : Cache κ ν} {now now' : Nat} {key : κ}

theorem get?_set_now {v : ν} :
    (c.set now key v).get? now key = if 0 < c.lifetime then some v else none := by
  rw [get?_set]
  simp only [Nat.lt_add_right_iff_pos]

/-- What the caches have under the keys of which `K` is true, each at a time of its own, is related as
given, and new entries will live as long in the one as in the other. -/
structure Agrees (now now' : Nat) (K : κ → Prop) (R : ν → ν' → Prop) (c : Cache κ ν) (c' : Cache κ ν') :
    Prop where
  lifetime : c.lifetime = c'.lifetime
  get? : ∀ key, K key → Option.Rel R (c.get? now key) (c'.get? now' key)

variable {K : κ → Prop} {R : ν → ν' → Prop} {c' : Cache κ ν'}

theorem agrees_self {R : ν → ν → Prop} (refl : ∀ key v, K key → c.get? now key = some v → R v v) :
    Agrees now now K R c c where
  lifetime := rfl
  get? key known := by
    cases found : c.get? now key with
    | none => exact .none
    | some v => exact .some (refl key v known found)

theorem Agrees.set {v : ν} {v' : ν'} (h : Agrees now now' K R c c') (same : R v v') :
    Agrees now now' K R (c.set now key v) (c'.set now' key v') where
  lifetime := h.lifetime
  get? other known := by
    by_cases here : other = key
    · rw [here, get?_set_now, get?_set_now, h.lifetime]
      split
      · exact .some same
      · exact .none
    · rw [get?_set_of_ne here (Nat.le_refl now), get?_set_of_ne here (Nat.le_refl now')]
      exact h.get? other known

theorem Agrees.erase (h : Agrees now now' K R c c') :
    Agrees now now' K R (c.erase key) (c'.erase key) where
  lifetime := h.lifetime
  get? other known := by
    by_cases here : other = key
    · rw [here, get?_erase, get?_erase]
      exact .none
    · rw [get?_erase_of_ne here, get?_erase_of_ne here]
      exact h.get? other known

theorem Agrees.modify {change : ν → ν} {change' : ν' → ν'} (h : Agrees now now' K R c c')
    (same : ∀ v v', R v v' → R (change v) (change' v')) :
    Agrees now now' K R (c.modify now key change) (c'.modify now' key change') where
  lifetime := h.lifetime
  get? other known := by
    have le := Nat.le_refl now
    have le' := Nat.le_refl now'
    by_cases here : other = key
    · subst here
      rw [get?_modify le, get?_modify le']
      exact (h.get? other known).map same
    · rw [get?_modify_of_ne here le, get?_modify_of_ne here le']
      exact h.get? other known

end AddressSync.Cache
