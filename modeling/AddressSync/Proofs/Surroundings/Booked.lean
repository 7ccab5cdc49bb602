import AddressSync.Proofs.Reconcile.Requests
import AddressSync.Proofs.Surroundings.Watched

/-! Surroundings that keep the books of the caches: whatever the provider answers and however time
passes, what the caches hold is noted whenever it was changed. So each time to expire that is ever
reckoned is in the books. -/

namespace AddressSync

open Sync Simulation Program

/-- A call takes any time and gets any reply. Time may also pass before the caches are seen or
changed. -/
def Watch.book : Reaction Sync.signature Watch Watch
  | s, .revise change, _, es, s' =>
    s.now ≤ s'.now ∧ s' = ⟨s'.now, change s'.now s.caches⟩ ∧ es = [s']
  | s, .look, seen, es, s' =>
    s.now ≤ s'.now ∧ s' = { s with now := s'.now } ∧ seen = (s'.now, s.caches) ∧ es = []
  | s, .call _, _, es, s' | s, .detect _ _, _, es, s' =>
    s.now ≤ s'.now ∧ s' = { s with now := s'.now } ∧ es = []
  | s, .stopRequested, _, es, s' | s, .limitWork _, _, es, s' | s, .log _, _, es, s'
  | s, .emit _, _, es, s' => s' = s ∧ es = []

namespace Sync

def Stamps : Request → Prop
  | .revise change => Stamping change
  | _ => True

theorem usual_stamps : Usual Stamps := ⟨fun _ stamping => stamping, trivial, fun _ => trivial⟩

end Sync

namespace Watch

variable {α : Type} {p : Sync α} {s s' : Watch} {es : List Watch} {a : α} {start lifetime : Nat}

abbrev Books (p : Sync α) (s : Watch) (es : List Watch) (a : α) (s' : Watch) : Prop :=
  Program.Runs Watch.book p s es a s'

structure Dated (start lifetime : Nat) (s : Watch) : Prop where
  begun : start ≤ s.now
  lifetimes : ∀ l ∈ s.caches.lifetimes, l = lifetime
  expiries : ∀ e ∈ s.caches.expiries, ∃ t, start ≤ t ∧ t ≤ s.now ∧ e = t + lifetime

theorem dated_empty (start lifetime : Nat) : Dated start lifetime ⟨start, .empty lifetime⟩ where
  begun := Nat.le_refl _
  lifetimes := by simp [Caches.lifetimes, Caches.empty]
  expiries := nofun

theorem Dated.later (h : s.Dated start lifetime) {t : Nat} (later : s.now ≤ t) :
    Dated start lifetime { s with now := t } where
  begun := Nat.le_trans h.begun later
  lifetimes := h.lifetimes
  expiries e mem :=
    let ⟨then', after, before, same⟩ := h.expiries e mem
    ⟨then', after, Nat.le_trans before later, same⟩

theorem Dated.revise (h : s.Dated start lifetime) {change : Nat → Caches → Caches}
    (stamping : Stamping change) : Dated start lifetime ⟨s.now, change s.now s.caches⟩ where
  begun := h.begun
  lifetimes := (stamping s.now s.caches).lifetimes ▸ h.lifetimes
  expiries e mem := by
    rcases (stamping s.now s.caches).expiries h.lifetimes e mem with kept | stamped
    · exact h.expiries e kept
    · exact ⟨s.now, h.begun, Nat.le_refl _, stamped⟩

theorem Dated.book {r : Request} {x : Answer r} (h : s.Dated start lifetime) (stamps : Stamps r)
    (answered : s.book r x es s') : s'.Dated start lifetime ∧ ∀ b ∈ es, b.Dated start lifetime := by
  cases r with
  | revise change =>
    obtain ⟨later, same, rfl⟩ := answered
    have revised : s'.Dated start lifetime := same ▸ (h.later later).revise stamps
    exact ⟨revised, List.forall_mem_singleton.mpr revised⟩
  | look =>
    obtain ⟨later, same, -, rfl⟩ := answered
    exact ⟨same ▸ h.later later, List.forall_mem_nil _⟩
  | call | detect =>
    obtain ⟨later, same, rfl⟩ := answered
    exact ⟨same ▸ h.later later, List.forall_mem_nil _⟩
  | stopRequested | limitWork | log | emit =>
    obtain ⟨rfl, rfl⟩ := answered
    exact ⟨h, List.forall_mem_nil _⟩

theorem Dated.books (h : s.Dated start lifetime) (stamps : OnlyAsks Stamps p)
    (run : Books p s es a s') : s'.Dated start lifetime ∧ ∀ b ∈ es, b.Dated start lifetime := by
  refine Asks.relates (R := fun (s : Watch) (es : List Watch) s' => s.Dated start lifetime →
    s'.Dated start lifetime ∧ ∀ b ∈ es, b.Dated start lifetime) stamps run ?_ ?_ h
  · exact fun s h => ⟨h, List.forall_mem_nil _⟩
  · intro s r x es s' es' s'' allowed answered rest h
    obtain ⟨middle, first⟩ := h.book allowed answered
    obtain ⟨last, later⟩ := rest middle
    exact ⟨last, List.forall_mem_append.mpr ⟨first, later⟩⟩

end Watch

namespace Simulation.World

def booked : Sync.Request → World → List Watch
  | .revise change, w => [⟨w.now, change w.now w.caches⟩]
  | _, _ => []

theorem book_answer (r : Sync.Request) (w : World) :
    w.watch.book r (answer r w).1 (booked r w) (answer r w).2.watch := by
  have watched := react_answer r w
  have now := Nat.le_refl w.now
  cases r with
  | revise change => exact ⟨now, watched.1, congrArg (fun s => [s]) watched.1.symm⟩
  | look => exact ⟨now, watched.1, watched.2.1, rfl⟩
  | call c => cases c <;> exact ⟨watched.1, watched.2.1, rfl⟩
  | detect => exact ⟨watched.1, watched.2.1, rfl⟩
  | stopRequested | limitWork | log | emit => exact ⟨watched.1, rfl⟩

theorem books_run {α : Type} (p : Sync α) (w : World) :
    Watch.Books p w.watch (Program.trace answer booked p w) (w.run p).1 (w.run p).2.watch :=
  Program.runs_trace watch (fun _ => True) (fun _ _ _ => trivial) (fun r w _ => book_answer r w) p w trivial

end Simulation.World

end AddressSync
