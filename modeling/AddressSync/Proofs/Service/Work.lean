import AddressSync.Proofs.Surroundings.Scene
import AddressSync.Service.Cycle

/-! What the service keeps up while it does one piece of work after the other, with news of each: what
each piece keeps up by itself. -/

namespace AddressSync

open Sync Reconcile

namespace Sync

variable {α β : Type} {I : Scene → Prop} {M : Moment → Prop} {p : Sync α}

def Keeps (I : Scene → Prop) (M : Moment → Prop) (p : Sync α) : Prop :=
  ∀ s, I s → Ensures p s fun es _ s' => I s' ∧ ∀ m ∈ es, M m

theorem keeps_pure (a : α) : Keeps I M (pure a : Sync α) :=
  fun _ start => Program.ensures_pure_iff.mpr ⟨start, fun _ mem => absurd mem List.not_mem_nil⟩

theorem Keeps.bind {f : α → Sync β} (first : Keeps I M p) (rest : ∀ a, Keeps I M (f a)) :
    Keeps I M (p >>= f) := by
  intro s start
  refine (first s start).bind fun es a s' ⟨middle, before⟩ => ?_
  refine (rest a s' middle).mono fun es' b s'' ⟨last, after⟩ => ⟨last, ?_⟩
  exact List.forall_mem_append.mpr ⟨before, after⟩

theorem Silent.keeps {p : Sync Unit} (silent : Silent p) : Keeps I M p := by
  intro s start
  refine (silent.ensures (fun _ _ _ _ _ h => h.symm) s).mono ?_
  rintro es a s' ⟨rfl, rfl⟩
  exact ⟨start, fun m mem => absurd mem List.not_mem_nil⟩

theorem Silent.keeps_guard {c : Prop} [Decidable c] {p : Sync Unit} {f : Unit → Sync β}
    (silent : Silent p) (rest : Keeps I M (f ())) : Keeps I M (if c then p >>= f else f ()) := by
  split
  · exact silent.keeps.bind fun _ => rest
  · exact rest

theorem keeps_stopRequested (asked : ∀ answer, M (.stopAsked answer)) :
    Keeps I M stopRequested := by
  intro s start
  rw [← bind_pure stopRequested]
  refine ensures_stopRequested_iff.mpr fun answer => Program.ensures_pure_iff.mpr ⟨start, ?_⟩
  exact List.forall_mem_singleton.mpr (asked answer)

theorem keeps_emit (told : ∀ s event, I s → M (.told event s.provider)) (event : Event) :
    Keeps I M (emit event) := by
  intro s start
  rw [← bind_pure (emit event)]
  refine ensures_emit_iff.mpr (Program.ensures_pure_iff.mpr ⟨start, ?_⟩)
  exact List.forall_mem_singleton.mpr (told s event start)

end Sync

namespace Service

variable {s : Scene} {service : Service}

theorem ensures_reconcile {work : Sync Report} {post : List Moment → Report → Scene → Prop}
    (h : Sync.Ensures work s post) :
    Sync.Ensures (service.reconcile work) s fun es report s' =>
      ∃ es', es = es' ++ [.told (.reconciled report) s'.provider] ∧ post es' report s' := by
  refine (ensures_within h).bind fun es report s' done => ?_
  exact ensures_emit_iff.mpr (Program.ensures_pure_iff.mpr ⟨es, rfl, done⟩)

variable {I : Scene → Prop} {M : Moment → Prop}

section

variable (asked : ∀ answer, M (.stopAsked answer))
  (told : ∀ s event, I s → M (.told event s.provider))

include told in
theorem keeps_reconcile {work : Sync Report} (keeps : Keeps I M work) :
    Keeps I M (service.reconcile work) := by
  intro s start
  refine (ensures_reconcile (keeps s start)).mono fun es report s' ⟨es', moments, last, all⟩ => ?_
  subst moments
  refine ⟨last, List.forall_mem_append.mpr ⟨all, ?_⟩⟩
  exact List.forall_mem_singleton.mpr (told s' _ last)

include asked told

theorem keeps_untilStopped {works : List (Sync Report)} (each : ∀ work ∈ works, Keeps I M work) :
    Keeps I M (service.untilStopped works) := by
  induction works with
  | nil => exact keeps_pure []
  | cons work works ih =>
    obtain ⟨first, rest⟩ := List.forall_mem_cons.mp each
    refine (keeps_stopRequested asked).bind fun stop => ?_
    cases stop with
    | true => exact keeps_pure []
    | false =>
      refine (keeps_reconcile told first).bind fun report => ?_
      exact (ih rest).bind fun reports => keeps_pure _

theorem keeps_publishAll {sightings : Sightings} {families : List Family}
    (each : ∀ family ∈ families, ∀ address, sightings.of family = .seen address →
      ∀ domain ∈ service.settings.domains family,
        Keeps I M (publish domain family address service.settings.attributes)) :
    Keeps I M (service.publishAll sightings families) := by
  induction families with
  | nil => exact keeps_pure []
  | cons family families ih =>
    obtain ⟨first, rest⟩ := List.forall_mem_cons.mp each
    have here : Keeps I M (service.publishFamily sightings family) := by
      unfold publishFamily
      dsimp only
      split
      · next address sighted =>
        refine keeps_untilStopped asked told fun work mem => ?_
        obtain ⟨domain, mem, same⟩ := List.mem_map.mp mem
        rw [← same]
        exact first address sighted domain mem
      all_goals exact (silent_log _ _ _).keeps_guard (keeps_pure [])
    exact here.bind fun reports => (ih rest).bind fun more => keeps_pure _

end

end Service

end AddressSync
