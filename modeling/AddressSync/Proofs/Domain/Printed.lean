import AddressSync.Domain

/-! A domain that was read from a text is known by how it is printed: a plain name never looks like
a wildcard. -/

namespace AddressSync.Domain

open Text

def IsParsed (d : Domain) : Prop := ∃ text, parse text = .ok d

inductive StandsFor : Domain → List Char → Prop
  | wildcard {name suffix : List Char} (starred : after? ['*', '.'] name = some suffix)
    (sound : nameRefusal? suffix = none) : StandsFor (.wildcard (String.ofList suffix)) name
  | plain {name : List Char} (bare : after? ['*', '.'] name = none)
    (sound : nameRefusal? name = none) : StandsFor (.plain (String.ofList name)) name

variable {d d' : Domain} {name text : String}

theorem standsFor_of_parse (read : parse text = .ok d) : d.StandsFor (normalize text) := by
  rw [parse] at read
  split at read
  · cases read
  split at read
  · cases read
  split at read
  · cases read
  split at read
  · next starred =>
    split at read
    · cases read
    · next sound =>
      cases read
      exact .wildcard starred sound
  · next bare =>
    split at read
    · cases read
    · next sound =>
      cases read
      exact .plain bare sound

theorem ascii_of_parse (read : parse text = .ok d) : ∀ c ∈ normalize text, c.toNat < 128 := by
  rw [parse] at read
  split at read
  · cases read
  split at read
  · cases read
  next ascii =>
    rw [Bool.not_eq_true, Bool.not_eq_false', List.all_eq_true] at ascii
    exact fun c mem => of_decide_eq_true (ascii c mem)

theorem length_le_of_parse (read : parse text = .ok d) : (normalize text).length ≤ 253 := by
  rw [parse] at read
  split at read
  · cases read
  split at read
  · cases read
  split at read
  · cases read
  next short => exact Nat.le_of_not_lt short

theorem IsParsed.after?_eq_none (h : (plain name).IsParsed) :
    after? ['*', '.'] name.toList = none := by
  obtain ⟨text, read⟩ := h
  cases standsFor_of_parse read with
  | plain bare sound => rwa [String.toList_ofList]

theorem IsParsed.eq_of_print (h : d.IsParsed) (h' : d'.IsParsed) (same : d.print = d'.print) :
    d = d' := by
  have star (suffix : String) : after? ['*', '.'] ("*." ++ suffix).toList = some suffix.toList := by
    rw [String.toList_append]
    rfl
  cases d with
  | plain name =>
    cases d' with
    | plain name' => exact congrArg plain same
    | wildcard suffix' =>
      have none := h.after?_eq_none
      have equal : name = "*." ++ suffix' := same
      rw [equal, star] at none
      cases none
  | wildcard suffix =>
    cases d' with
    | plain name' =>
      have none := h'.after?_eq_none
      have equal : "*." ++ suffix = name' := same
      rw [← equal, star] at none
      cases none
    | wildcard suffix' =>
      have equal : "*." ++ suffix = "*." ++ suffix' := same
      exact congrArg wildcard (String.append_right_inj _ |>.mp equal)

end AddressSync.Domain
