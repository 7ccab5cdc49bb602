import AddressSync.Proofs.Service.Deadlines
import AddressSync.Proofs.Surroundings.Attended
import Mathlib.Data.List.Chain

/-! When the cycles of a whole run of the service start. Calls and detection take any time, so that a
cycle may be over long before the next one is due, or long after. -/

namespace AddressSync

open Sync Simulation

namespace Schedule

variable {σ ε : Type}

structure Round (σ ε : Type) where
  start : σ
  noted : ε
  finish : σ

section

variable (clock : σ → Nat) (idle : Nat → σ → σ) (cycle : σ → ε → σ → Prop)
  (interval shutdown : Nat)

/-- The cycles that are served from a due time on, where `cycle` says what may come of each. -/
inductive Serves : Nat → σ → List (Round σ ε) → σ → Prop
  | closed {due : Nat} {s : σ} (late : shutdown ≤ max due (clock s)) :
    Serves due s [] (idle shutdown s)
  | round {due : Nat} {s s₁ s' : σ} {noted : ε} {rounds : List (Round σ ε)}
    (early : max due (clock s) < shutdown) (one : cycle (idle due s) noted s₁)
    (rest : Serves (next interval due (max due (clock s))) s₁ rounds s') :
    Serves due s (⟨idle due s, noted, s₁⟩ :: rounds) s'

end

variable {clock : σ → Nat} {idle : Nat → σ → σ} {cycle : σ → ε → σ → Prop}
  {interval shutdown due : Nat} {s s' : σ} {rounds : List (Round σ ε)}

/-- What is computed is served so, when every computed cycle is one of those that may come. -/
theorem serves_serve {τ : Type} {clock' : τ → Nat} {idle' : Nat → τ → τ} {cycle' : τ → τ}
    (view : τ → σ) (keeps : τ → Prop) (positive : 0 < interval)
    (clocks : ∀ t, clock (view t) = clock' t)
    (idles : ∀ n t, keeps t → keeps (idle' n t) ∧ view (idle' n t) = idle n (view t))
    (cycles : ∀ t, keeps t → keeps (cycle' t) ∧ ∃ noted, cycle (view t) noted (view (cycle' t)))
    (t : τ) (h : keeps t) :
    keeps (serve clock' idle' cycle' interval positive shutdown due t) ∧
      ∃ rounds, Serves clock idle cycle interval shutdown due (view t) rounds
        (view (serve clock' idle' cycle' interval positive shutdown due t)) := by
  induction due, t using serve.induct clock' idle' cycle' interval positive shutdown with
  | case1 due t served late =>
    obtain ⟨kept, same⟩ := idles shutdown t h
    rw [serve, if_pos late, same]
    refine ⟨kept, [], .closed ?_⟩
    rwa [clocks]
  | case2 due t served early ih =>
    obtain ⟨waited, same⟩ := idles due t h
    obtain ⟨kept, noted, one⟩ := cycles _ waited
    obtain ⟨last, rounds, rest⟩ := ih kept
    rw [serve, if_neg early]
    rw [same] at one
    have now : max due (clock' t) = max due (clock (view t)) := by rw [clocks]
    change ¬shutdown ≤ max due (clock' t) at early
    rw [now] at early ⊢
    rw [show served = max due (clock (view t)) from now] at last rest
    exact ⟨last, _, .round (Nat.lt_of_not_le early) one rest⟩

theorem Serves.eq_nil_iff (serves : Serves clock idle cycle interval shutdown due s rounds s') :
    rounds = [] ↔ shutdown ≤ max due (clock s) := by
  cases serves with
  | closed late => simp [late]
  | round early => simp only [reduceCtorEq, false_iff]; omega

theorem Serves.cycles (serves : Serves clock idle cycle interval shutdown due s rounds s') :
    ∀ r ∈ rounds, cycle r.start r.noted r.finish := by
  induction serves with
  | closed => simp
  | round early one rest ih => exact List.forall_mem_cons.mpr ⟨one, ih⟩

theorem Serves.keeps {I : σ → Prop}
    (serves : Serves clock idle cycle interval shutdown due s rounds s')
    (waits : ∀ t s, I s → I (idle t s)) (one : ∀ s noted s', I s → cycle s noted s' → I s')
    (start : I s) : ∀ r ∈ rounds, I r.start := by
  induction serves with
  | closed => simp
  | @round due s s₁ s' noted rounds early done rest ih =>
    have waited := waits due s start
    exact List.forall_mem_cons.mpr ⟨waited, ih (one _ _ _ waited done)⟩

section

variable (idles : ∀ t s, clock (idle t s) = max (clock s) t)

include idles

theorem Serves.first (serves : Serves clock idle cycle interval shutdown due s rounds s') :
    ∀ r ∈ rounds.head?, clock r.start = max due (clock s) := by
  cases serves with
  | closed => simp
  | round => simp [idles, Nat.max_comm]

theorem Serves.early (serves : Serves clock idle cycle interval shutdown due s rounds s') :
    ∀ r ∈ rounds, clock r.start < shutdown := by
  induction serves with
  | closed => simp
  | round early one rest ih =>
    refine List.forall_mem_cons.mpr ⟨?_, ih⟩
    rw [idles]
    omega

/-- A cycle starts an interval after the one before it, give or take the slack, unless that one took
longer: then it starts at once. -/
def Spaced (clock : σ → Nat) (interval : Nat) (r r' : Round σ ε) : Prop :=
  clock r.finish ≤ clock r'.start ∧ clock r.start + interval ≤ clock r'.start + slack ∧
    clock r'.start ≤ max (clock r.finish) (clock r.start + interval)

theorem Serves.spaced (serves : Serves clock idle cycle interval shutdown due s rounds s') :
    rounds.IsChain (Spaced clock interval) := by
  induction serves with
  | closed => exact .nil
  | @round due s s₁ s' noted rounds early one rest ih =>
    -- The round after this one is the first of the rest, and when that was due is known.
    refine List.isChain_cons.mpr ⟨fun r' mem => ?_, ih⟩
    have first := rest.first idles r' mem
    have start := idles due s
    unfold next at first
    unfold Spaced
    dsimp only
    split at first <;> omega

theorem Serves.last (serves : Serves clock idle cycle interval shutdown due s rounds s') :
    ∀ r ∈ rounds.getLast?, shutdown ≤ max (clock r.finish) (clock r.start + interval) := by
  induction serves with
  | closed => simp
  | @round due s s₁ s' noted rounds early one rest ih =>
    cases rounds with
    | cons r rounds =>
      rw [List.getLast?_cons_cons]
      exact ih
    | nil =>
      have late := rest.eq_nil_iff.mp rfl
      have start := idles due s
      unfold next at late
      simp only [List.getLast?_singleton, Option.mem_some_iff]
      rintro r rfl
      split at late <;> dsimp only <;> omega

end

end Schedule

namespace Service

open Schedule

def interval (service : Service) : Nat := 1000 * service.settings.timing.interval.toNat

def firstDue (service : Service) (start : Nat) : Nat :=
  if service.settings.timing.updateOnStart then start else start + service.interval

abbrev Rounds := List (Round Attended (List News × List Report))

def Cycles (service : Service) (shutdown capacity : Nat) (s : Attended)
    (noted : List News × List Report) (s' : Attended) : Prop :=
  Attended.Runs (some shutdown) capacity service.cycle s noted.1 noted.2 s'

/-- A whole run of the service: what is told before the first cycle, the cycles up to the shutdown,
and what is told after the last one. The request that ended the cycles does not stop the clean-up. -/
def Served (service : Service) (shutdown capacity : Nat) (s : Attended) (opening : List News)
    (rounds : Rounds) (closing : List News) (result : Except Failure Unit) (s' : Attended) : Prop :=
  ∃ s₁ s₂, Attended.Runs (some shutdown) capacity service.announce s opening () s₁ ∧
    Serves Attended.now Attended.idle (service.Cycles shutdown capacity) service.interval shutdown
      (service.firstDue s.now) s₁ rounds s₂ ∧
    Attended.Runs none capacity service.conclude s₂ closing result s'

variable {service : Service} {shutdown capacity : Nat} {s s' : Attended} {opening closing : List News}
  {rounds : Rounds} {result : Except Failure Unit}

theorem ensures_announce (service : Service) (s : Attended) :
    Attended.Ensures (some shutdown) capacity service.announce s fun es _ s' =>
      (∃ n, es = [⟨.started service.settings.domainCount service.settings.lists.length, n⟩]) ∧
        s'.now = s.now ∧ s'.limited = s.limited := by
  refine Attended.ensures_emit fun n s' now limited => ?_
  rw [← bind_pure (log _ _ _)]
  refine Attended.ensures_silent (silent_log _ _ _) (Program.ensures_pure_iff.mpr ?_)
  exact ⟨⟨n, rfl⟩, now, limited⟩

def prepared (shutdown : Nat) (agenda : List (Nat × Intervention)) (w : World) : World :=
  let dated := agenda.map fun entry => (w.now + entry.1, entry.2)
  { w with
    agenda := dated.mergeSort fun a b => a.1 ≤ b.1, stop := { time := some (w.now + shutdown) } }

def concluding (service : Service) (positive : 0 < service.interval) (shutdown : Nat)
    (agenda : List (Nat × Intervention)) (w : World) : World :=
  serve World.now World.idle (fun w => (w.run service.cycle).2) service.interval positive
    (w.now + shutdown) (service.firstDue w.now) ((prepared shutdown agenda w).run service.announce).2

section

variable (positive : 0 < service.interval) (shutdown : Nat) (agenda : List (Nat × Intervention))
  (w : World)

theorem serve_eq : w.serve service shutdown agenda =
    let ended := { service.concluding positive shutdown agenda w with stop := {} }.run service.conclude
    (ended.1, { ended.2 with agenda := [] }) := by
  unfold World.serve
  dsimp only
  rw [dif_pos (show 0 < 1000 * service.settings.timing.interval.toNat from positive)]
  rfl

include positive

/-- The simulation's run of the service is a whole run with a receiver that fetches nothing before the
end, whatever others do meanwhile. -/
theorem served_serve : ∃ opening rounds closing,
    service.Served (w.now + shutdown) w.capacity w.attended opening rounds closing
      (w.serve service shutdown agenda).1 (w.serve service shutdown agenda).2.attended := by
  have begun : (prepared shutdown agenda w).StopsBy (some (w.now + shutdown)) w.capacity := ⟨rfl, rfl⟩
  have opens := World.attended_run service.announce begun
  obtain ⟨kept, rounds, serves⟩ :
      (service.concluding positive shutdown agenda w).StopsBy (some (w.now + shutdown)) w.capacity ∧
        ∃ rounds, Serves Attended.now Attended.idle (service.Cycles (w.now + shutdown) w.capacity)
          service.interval (w.now + shutdown) (service.firstDue w.now) _ rounds
            (service.concluding positive shutdown agenda w).attended :=
    serves_serve World.attended (World.StopsBy (some (w.now + shutdown)) w.capacity) positive
      (fun w => show w.attended.now = w.now from rfl) (fun n w h => h.idle n)
      (fun w h => ⟨h.run service.cycle, (_, _), World.attended_run service.cycle h⟩)
      _ (begun.run service.announce)
  have ended : ({ service.concluding positive shutdown agenda w with stop := {} } : World).StopsBy none
      w.capacity := ⟨rfl, kept.capacity⟩
  have closes := World.attended_run service.conclude ended
  rw [serve_eq positive]
  exact ⟨_, rounds, _, _, _, opens, serves, closes⟩

end

/-- The cycles of a run that begins at `start` neither overlap nor bunch: the first one starts when it is
due, each other one an interval after the one before it or, when that took longer, at once, and none
starts once the shutdown has come, which alone ends them. -/
structure OnSchedule (service : Service) (shutdown start : Nat) (rounds : Rounds) : Prop where
  none : rounds = [] ↔ shutdown ≤ service.firstDue start
  first : ∀ r ∈ rounds.head?, r.start.now = service.firstDue start
  within : ∀ r ∈ rounds, r.start.now < shutdown ∧ r.start.now ≤ r.finish.now
  spaced : rounds.IsChain (Spaced Attended.now service.interval)
  last : ∀ r ∈ rounds.getLast?, shutdown ≤ max r.finish.now (r.start.now + service.interval)

theorem Served.onSchedule
    (served : service.Served shutdown capacity s opening rounds closing result s') :
    service.OnSchedule shutdown s.now rounds := by
  obtain ⟨s₁, s₂, opens, serves, closes⟩ := served
  obtain ⟨-, begun, -⟩ := ensures_announce service s _ _ _ opens
  have idles (t : Nat) (s : Attended) : (s.idle t).now = max s.now t := rfl
  have due : max (service.firstDue s.now) s₁.now = service.firstDue s.now := by
    unfold firstDue
    split <;> omega
  have none := serves.eq_nil_iff
  have first := serves.first idles
  rw [due] at none first
  exact {
    none, first
    within r mem := ⟨serves.early idles r mem, (serves.cycles r mem).follows.later⟩
    spaced := serves.spaced idles
    last := serves.last idles }

/-- Every whole run keeps to the schedule, however long calls and detection take and whatever comes of
them; and so does what the service computes in a simulated world. -/
theorem served_on_schedule (service : Service) :
    (∀ shutdown capacity s opening rounds closing result s',
      service.Served shutdown capacity s opening rounds closing result s' →
        service.OnSchedule shutdown s.now rounds) ∧
    (0 < service.interval → ∀ shutdown agenda (w : World), ∃ opening rounds closing,
      service.Served (w.now + shutdown) w.capacity w.attended opening rounds closing
        (w.serve service shutdown agenda).1 (w.serve service shutdown agenda).2.attended ∧
      service.OnSchedule (w.now + shutdown) w.now rounds) := by
  refine ⟨fun _ _ _ _ _ _ _ _ served => served.onSchedule, fun positive shutdown agenda w => ?_⟩
  obtain ⟨opening, rounds, closing, served⟩ := served_serve positive shutdown agenda w
  exact ⟨opening, rounds, closing, served, served.onSchedule⟩

def hasty : Service := { keeper with settings.timing.interval := 30 }

theorem served_on_schedule_hasty : hasty.settings.validate = .ok () ∧ 0 < hasty.interval ∧
    ∃ opening rounds closing,
      hasty.Served 100000 0 sluggish.attended opening rounds closing
        (sluggish.serve hasty 100000 []).1 (sluggish.serve hasty 100000 []).2.attended ∧
      rounds ≠ [] ∧ (∀ r ∈ rounds.head?, r.start.now = 0) ∧
        rounds.IsChain (Spaced Attended.now 30000) := by
  have positive : 0 < hasty.interval := by decide
  obtain ⟨every, simulated⟩ := served_on_schedule hasty
  obtain ⟨opening, rounds, closing, served, -⟩ := simulated positive 100000 [] sluggish
  have kept := every _ _ _ _ _ _ _ _ served
  have some : rounds ≠ [] := kept.none.not.mpr (by decide)
  exact ⟨by rfl, positive, opening, rounds, closing, served, some, kept.first, kept.spaced⟩

end Service

end AddressSync
