import AddressSync.Proofs.Cache.Holds

/-! What a cache answers, told from the history of its use alone: the value that was set last, as
the changes since have left it, as long as its lifetime has not passed and nothing has ended it.
Reading that skips what has expired, sweeping and changing in place all come to this. -/

namespace AddressSync.Cache

variable {κ ν : Type} [DecidableEq κ]

inductive Use (κ ν : Type)
  | get (key : κ)
  | set (key : κ) (value : ν)
  | update (key : κ) (change : ν → ν)
  | erase (key : κ)
  | clear
  | wait (time : Nat)

inductive Answer (ν : Type)
  | found (value : Option ν)
  | updated (done : Bool)
  | nothing

structure Note (κ ν : Type) where
  time : Nat
  use : Use κ ν
  answer : Answer ν

namespace Use

def Ends (key : κ) : Use κ ν → Prop
  | set other _ | erase other => other = key
  | clear => True
  | get _ | update _ _ | wait _ => False

def IsElsewhere (key : κ) : Use κ ν → Prop
  | get other | set other _ | update other _ | erase other => other ≠ key
  | clear | wait _ => False

def run (now : Nat) (c : Cache κ ν) : Use κ ν → Answer ν × Nat × Cache κ ν
  | get key => (.found (c.get? now key), now, c)
  | set key value => (.nothing, now, c.set now key value)
  | update key change => ((.updated (c.update now key change).1), now, (c.update now key change).2)
  | erase key => (.nothing, now, c.erase key)
  | clear => (.nothing, now, c.clear)
  | wait time => (.nothing, now + time, c)

end Use

/-- What the use has made of a value under the key: an update counts only where it was answered that
there was something to change. -/
def Note.revise (key : κ) (v : ν) : Note κ ν → ν
  | ⟨_, .update other change, .updated true⟩ => if other = key then change v else v
  | _ => v

/-- By the notes, the key was set, its lifetime since then has not passed at the time, nothing has
ended it, and this is the value as the updates since have left it. -/
def Told (lifetime : Nat) (notes : List (Note κ ν)) (key : κ) (t : Nat) (v : ν) : Prop :=
  ∃ before n after v₀, notes = before ++ n :: after ∧ n.use = .set key v₀ ∧
    t < n.time + lifetime ∧ (∀ later ∈ after, ¬ later.use.Ends key) ∧
    v = after.foldl (Note.revise key) v₀

structure Diary (κ ν : Type) where
  now : Nat
  cache : Cache κ ν
  notes : List (Note κ ν) := []

def Diary.use (d : Diary κ ν) (u : Use κ ν) : Diary κ ν :=
  let (answer, now, cache) := u.run d.now d.cache
  ⟨now, cache, d.notes ++ [⟨d.now, u, answer⟩]⟩

def kept (lifetime start : Nat) (uses : List (Use κ ν)) : Diary κ ν :=
  uses.foldl Diary.use ⟨start, { lifetime }, []⟩

variable {c : Cache κ ν} {d : Diary κ ν} {lifetime now t : Nat} {key other : κ} {v : ν}
  {change : ν → ν} {notes : List (Note κ ν)} {n : Note κ ν} {u : Use κ ν}

theorem not_told_nil : ¬ Told lifetime [] key t v := by
  rintro ⟨before, n, after, v₀, split, -⟩
  simp at split

theorem told_append_iff :
    Told lifetime (notes ++ [n]) key t v ↔
      n.use = .set key v ∧ t < n.time + lifetime ∨
        ¬ n.use.Ends key ∧ ∃ v₁, Told lifetime notes key t v₁ ∧ v = n.revise key v₁ := by
  constructor
  · rintro ⟨before, first, after, v₀, split, set, live, kept, rfl⟩
    rcases after.eq_nil_or_concat with rfl | ⟨after, last, rfl⟩
    · obtain ⟨rfl, same⟩ := List.append_inj' split rfl
      obtain rfl : n = first := List.singleton_inj.mp same
      exact .inl ⟨set, live⟩
    · rw [List.concat_eq_append] at split kept ⊢
      rw [← List.cons_append, ← List.append_assoc] at split
      obtain ⟨rfl, same⟩ := List.append_inj' split rfl
      obtain rfl : n = last := List.singleton_inj.mp same
      have kept := List.forall_mem_append.mp kept
      refine .inr ⟨kept.2 n (List.mem_singleton_self n), _, ?_, List.foldl_append⟩
      exact ⟨before, first, after, v₀, rfl, set, live, kept.1, rfl⟩
  · rintro (⟨set, live⟩ | ⟨kept, v₁, ⟨before, first, after, v₀, rfl, set, live, others, rfl⟩, rfl⟩)
    · exact ⟨notes, n, [], v, rfl, set, live, by simp, rfl⟩
    · refine ⟨before, first, after ++ [n], v₀, by simp, set, live, ?_, by simp⟩
      exact List.forall_mem_append.mpr ⟨others, by simpa using kept⟩

/-- A note that neither ends the key nor revises it tells nothing new about it. -/
theorem told_append_of_kept (kept : ¬ n.use.Ends key) (same : ∀ v : ν, n.revise key v = v) :
    Told lifetime (notes ++ [n]) key t v ↔ Told lifetime notes key t v := by
  have unset : n.use ≠ .set key v := by
    intro set
    rw [set] at kept
    exact kept rfl
  rw [told_append_iff]
  simp [kept, same, unset]

theorem not_told_append (ended : n.use.Ends key) (unset : n.use ≠ .set key v) :
    ¬ Told lifetime (notes ++ [n]) key t v := by
  rw [told_append_iff]
  rintro (⟨set, -⟩ | ⟨kept, -⟩)
  · exact unset set
  · exact kept ended

theorem update_fst_iff : (c.update now key change).1 = true ↔ ∃ v, c.get? now key = some v := by
  rw [← Option.isSome_iff_exists, isSome_get?_iff]
  simp only [Cache.update, Cache.sweep, List.any_eq_true, List.mem_filter, decide_eq_true_eq]
  exact exists_congr fun e => and_assoc.trans (and_congr_right fun _ => and_comm)

theorem get?_update (later : now ≤ t) :
    (c.update now key change).2.get? t key = (c.get? t key).map change :=
  get?_modify later

theorem get?_update_eq_some_iff (later : now ≤ t) :
    (c.update now key change).2.get? t key = some v ↔ ∃ v₁, c.get? t key = some v₁ ∧
      v = Note.revise key v₁ ⟨now, .update key change, .updated (c.update now key change).1⟩ := by
  rw [get?_update later, Option.map_eq_some_iff]
  cases done : (c.update now key change).1 with
  | true => simp [Note.revise, eq_comm]
  | false =>
    have missing : c.get? now key = none := by
      refine Option.eq_none_iff_forall_ne_some.mpr fun v found => ?_
      rw [update_fst_iff.mpr ⟨v, found⟩] at done
      cases done
    simp [get?_eq_none_of_later missing later]

theorem get?_run_of_isElsewhere (elsewhere : u.IsElsewhere key) (later : now ≤ t) :
    (u.run now c).2.2.get? t key = c.get? t key := by
  cases u with
  | get other => rfl
  | set other v => exact get?_set_of_ne (Ne.symm elsewhere) later
  | update other change => exact get?_modify_of_ne (Ne.symm elsewhere) later
  | erase other => exact get?_erase_of_ne (Ne.symm elsewhere)
  | clear => exact elsewhere.elim
  | wait time => exact elsewhere.elim

omit [DecidableEq κ] in
theorem Use.IsElsewhere.not_ends (h : u.IsElsewhere key) : ¬ u.Ends key := by
  cases u with
  | set other v => exact h
  | erase other => exact h
  | clear => exact h.elim
  | get other => exact id
  | update other change => exact id
  | wait time => exact id

theorem Use.IsElsewhere.revise {answer : Answer ν} (h : u.IsElsewhere key) :
    Note.revise key v ⟨now, u, answer⟩ = v := by
  cases u with
  | update other change =>
    cases answer with
    | updated done =>
      cases done with
      | true => exact if_neg h
      | false => rfl
    | found value => rfl
    | nothing => rfl
  | _ => rfl

structure Diary.IsTrue (lifetime : Nat) (d : Diary κ ν) : Prop where
  lasts : d.cache.lifetime = lifetime
  told : ∀ key t v, d.now ≤ t → (d.cache.get? t key = some v ↔ Told lifetime d.notes key t v)

theorem Diary.now_le_use : d.now ≤ (d.use u).now := by
  cases u with
  | wait time => exact Nat.le_add_right d.now time
  | _ => exact Nat.le_refl d.now

theorem Diary.IsTrue.told_use (h : d.IsTrue lifetime) (later : (d.use u).now ≤ t) :
    (d.use u).cache.get? t key = some v ↔ Told lifetime (d.use u).notes key t v := by
  have before : d.now ≤ t := Nat.le_trans Diary.now_le_use later
  have told := h.told key t
  by_cases elsewhere : u.IsElsewhere key
  · exact (get?_run_of_isElsewhere elsewhere before ▸ told v before).trans
      (told_append_of_kept elsewhere.not_ends fun _ => elsewhere.revise).symm
  cases u with
  | get other => exact (told v before).trans (told_append_of_kept id fun _ => rfl).symm
  | wait time => exact (told v before).trans (told_append_of_kept id fun _ => rfl).symm
  | set other w =>
    obtain rfl : other = key := Decidable.not_not.mp elsewhere
    simp only [Diary.use, Use.run]
    rw [get?_set, h.lasts, told_append_iff]
    simp [Use.Ends, and_comm]
  | update other change =>
    obtain rfl : other = key := Decidable.not_not.mp elsewhere
    simp only [Diary.use, Use.run]
    rw [get?_update_eq_some_iff before, told_append_iff]
    simp only [told _ before]
    simp [Use.Ends]
  | erase other =>
    obtain rfl : other = key := Decidable.not_not.mp elsewhere
    simp only [Diary.use, Use.run, get?_erase]
    exact iff_of_false nofun (not_told_append rfl nofun)
  | clear =>
    exact iff_of_false nofun (not_told_append trivial nofun)

theorem Diary.IsTrue.use (h : d.IsTrue lifetime) : (d.use u).IsTrue lifetime where
  lasts := by
    cases u with
    | _ => exact h.lasts
  told _ _ _ later := h.told_use later

theorem Diary.IsTrue.foldl (h : d.IsTrue lifetime) (uses : List (Use κ ν)) :
    (uses.foldl Diary.use d).IsTrue lifetime := by
  induction uses generalizing d with
  | nil => exact h
  | cons u uses ih => exact ih h.use

theorem isTrue_empty :
    (⟨now, { lifetime }, []⟩ : Diary κ ν).IsTrue lifetime where
  lasts := rfl
  told _ _ _ _ := iff_of_false nofun not_told_nil

theorem isLive_of_mem_set {e : Entry κ ν} (mem : e ∈ (c.set now key v).entries) :
    e.isLive now ∨ c.lifetime = 0 ∧ e = ⟨key, v, now⟩ := by
  simp only [Cache.set, Cache.erase, Cache.sweep, List.mem_append, List.mem_filter,
    List.mem_singleton] at mem
  rcases mem with old | rfl
  · exact .inl old.1.2
  · by_cases dead : c.lifetime = 0
    · exact .inr ⟨dead, by rw [dead, Nat.add_zero]⟩
    · exact .inl (by simpa [Entry.isLive] using Nat.pos_of_ne_zero dead)

theorem isLive_of_mem_update {e : Entry κ ν} (mem : e ∈ (c.update now key change).2.entries) :
    e.isLive now := by
  obtain ⟨e, kept, rfl⟩ := List.mem_map.mp mem
  have live : e.isLive now := (List.mem_filter.mp kept).2
  split
  · exact live
  · exact live

/-- After any uses from the start, what a cache answers from then on is what the history tells; an
update changes something exactly where there was a value to read and moves the end of no entry's
life; uses of other keys are of no matter; and what `set` and `update` leave behind is live, but for
the entry just set where entries do not live at all. -/
theorem refines_history (lifetime start : Nat) (uses : List (Use κ ν)) :
    let d := kept lifetime start uses
    (∀ key t v, d.now ≤ t → (d.cache.get? t key = some v ↔ Told lifetime d.notes key t v)) ∧
    (∀ key change,
      ((d.cache.update d.now key change).1 = true ↔ ∃ v, d.cache.get? d.now key = some v) ∧
      (∀ t, d.now ≤ t →
        (d.cache.update d.now key change).2.get? t key = (d.cache.get? t key).map change) ∧
      ∀ e ∈ (d.cache.update d.now key change).2.entries, e.isLive d.now) ∧
    (∀ key v, ∀ e ∈ (d.cache.set d.now key v).entries,
      e.isLive d.now ∨ lifetime = 0 ∧ e = ⟨key, v, d.now⟩) ∧
    ∀ key (u : Use κ ν), u.IsElsewhere key →
      ∀ t, d.now ≤ t → (d.use u).cache.get? t key = d.cache.get? t key := by
  intro d
  have told : d.IsTrue lifetime := isTrue_empty.foldl uses
  refine ⟨told.told, fun key change => ⟨update_fst_iff, fun _ => get?_update, ?_⟩, ?_, ?_⟩
  · exact fun _ => isLive_of_mem_update
  · intro key v e mem
    rw [← told.lasts]
    exact isLive_of_mem_set mem
  · exact fun key u elsewhere _ => get?_run_of_isElsewhere elsewhere

theorem refines_history_patched :
    let d := kept 10 0 [.set "a" [1], .wait 5, .update "a" (· ++ [2]), .set "b" [9], .wait 4]
    d.now = 9 ∧ Told 10 d.notes "a" 9 [1, 2] ∧ ∀ v, ¬ Told 10 d.notes "a" 10 v := by
  intro d
  have told := (refines_history 10 0
    [.set "a" [1], .wait 5, .update "a" (· ++ [2]), .set "b" [9], .wait 4]).1
  refine ⟨rfl, (told "a" 9 [1, 2] (by decide)).mp (by decide), fun v late => ?_⟩
  have found := (told "a" 10 v (by decide)).mpr late
  have gone : d.cache.get? 10 "a" = none := by decide
  cases gone.symm.trans found

end AddressSync.Cache
