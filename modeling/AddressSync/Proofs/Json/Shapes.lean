import AddressSync.Json.Fields
import Mathlib.Data.List.Nodup

/-! Written values as they are read again: records by the names of their fields, arrays by what
their items hold, and numbers that are small enough. -/

namespace AddressSync.Json

variable {α : Type} {entries : List (String × Value)} {key : String} {v : Value}

theorem occurrences_record (key : String) (entries : List (String × Value)) :
    occurrences key (entries.map fun (k, v) => (some k, v)) = (entries.map Prod.fst).count key := by
  rw [occurrences, ← List.countP_eq_length_filter, List.countP_map, List.count, List.countP_map]
  rfl

theorem lookup?_record (distinct : (entries.map Prod.fst).Nodup) (mem : (key, v) ∈ entries) :
    lookup? key (entries.map fun (k, v) => (some k, v)) = some v := by
  induction entries with
  | nil => cases mem
  | cons entry rest ih =>
    obtain ⟨k, u⟩ := entry
    obtain ⟨new, distinct⟩ := List.nodup_cons.mp distinct
    rcases List.mem_cons.mp mem with same | later
    · cases same
      simp [lookup?]
    · have other : k ≠ key := by
        rintro rfl
        exact new (List.mem_map.mpr ⟨_, later, rfl⟩)
      simpa [lookup?, other] using ih distinct later

theorem fields?_record {names : List String} (keys : entries.map Prod.fst = names)
    (distinct : names.Nodup) : (Value.record entries).fields? names = some ⟨true, entries⟩ := by
  subst keys
  have given : ((entries.map fun (k, v) => (some k, v)) : List (Content × Value)).all
      (fun entry => entry.1.isSome) = true := by simp
  have once : (entries.map Prod.fst).all
      (occurrences · (entries.map fun (k, v) => (some k, v)) ≤ 1) = true := by
    simp only [occurrences_record, List.all_eq_true, decide_eq_true_eq]
    exact fun name _ => List.nodup_iff_count_le_one.mp distinct name
  have found : (entries.map Prod.fst).filterMap (fun name =>
      (lookup? name (entries.map fun (k, v) => (some k, v))).map fun v => (name, v)) = entries := by
    rw [List.filterMap_map]
    refine (List.filterMap_congr fun entry mem => ?_).trans List.filterMap_some
    exact congrArg (Option.map _) (lookup?_record distinct mem)
  rw [Value.record, Value.fields?, given, once, found]
  rfl

section

variable {named : Bool} {given : List (String × Value)} {k : String}

@[simp] theorem Fields.get?_cons_self : Fields.get? ⟨named, (key, v) :: given⟩ key = some v :=
  List.lookup_cons_self

@[simp] theorem Fields.get?_cons_of_ne (other : k ≠ key) :
    Fields.get? ⟨named, (k, v) :: given⟩ key = Fields.get? ⟨named, given⟩ key := by
  rw [get?, List.lookup_cons, beq_false_of_ne other.symm]
  rfl

end

theorem readAll_map {read : Value → Option α} {write : α → Value} {xs : List α}
    (again : ∀ x ∈ xs, read (write x) = some x) : readAll read (xs.map write) = some xs := by
  induction xs with
  | nil => rfl
  | cons x rest ih =>
    obtain ⟨first, later⟩ := List.forall_mem_cons.mp again
    rw [List.map_cons, readAll, first, ih later]
    rfl

theorem list?_array {read : Value → Option α} {write : α → Value} {xs : List α}
    (again : ∀ x ∈ xs, read (write x) = some x) :
    (Value.array (xs.map write)).list? read = some xs :=
  readAll_map again

theorem exists_of_mem_readAll {read : Value → Option α} {vs : List Value} {xs : List α} {x : α}
    (done : readAll read vs = some xs) (mem : x ∈ xs) : ∃ v ∈ vs, read v = some x := by
  induction vs generalizing xs with
  | nil =>
    cases done
    cases mem
  | cons v rest ih =>
    obtain ⟨y, first, done⟩ := Option.bind_eq_some_iff.mp done
    obtain ⟨ys, later, same⟩ := Option.bind_eq_some_iff.mp done
    cases same
    rcases List.mem_cons.mp mem with rfl | mem
    · exact ⟨v, List.mem_cons_self, first⟩
    · obtain ⟨u, among, read⟩ := ih later mem
      exact ⟨u, List.mem_cons_of_mem _ among, read⟩

@[simp] theorem string?_text (s : String) : (Value.text s).string? = some s := rfl

@[simp] theorem bool?_bool (b : Bool) : (Value.bool b).bool? = some b := rfl

theorem nat?_nat {n size : Nat} (small : n < size) : (Value.nat n).nat? (size - 1) = some n :=
  if_pos ⟨rfl, rfl, Nat.le_pred_of_lt small⟩

@[simp] theorem uint32?_toNat (n : UInt32) : (Value.nat n.toNat).uint32? = some n := by
  rw [Value.uint32?, nat?_nat n.toNat_lt_size, Option.map_some,
    UInt32.ofNat_toNat]

@[simp] theorem uint64?_toNat (n : UInt64) : (Value.nat n.toNat).uint64? = some n := by
  rw [Value.uint64?, nat?_nat n.toNat_lt_size, Option.map_some,
    UInt64.ofNat_toNat]

end AddressSync.Json
