import AddressSync.Proofs.Surroundings.Watched

/-! Surroundings in which only time is kept. Calls get any reply and take any time, and so does
detection; nothing else takes time. Whether work is asked to stop is open as long as its deadline has
not passed. -/

namespace AddressSync

open Sync Simulation

structure Clock where
  now : Nat
  deadline : Option Nat

/-- What is noted of a run: when each call is made, under which deadline, and where a deadline is set
or lifted. -/
inductive Pulse
  | issued (c : Call) (time : Nat) (deadline : Option Nat)
  | limited

namespace Pulse

def isLate : Pulse → Bool
  | .issued _ time deadline => deadline.any (· < time)
  | .limited => false

def Limits : Pulse → Prop
  | .limited => True
  | .issued .. => False

end Pulse

namespace Clock

def isPast (s : Clock) : Bool := s.deadline.any (· < s.now)

def react : Program.Reaction Sync.signature Clock Pulse
  | s, .call c, _, es, s' =>
    s.now ≤ s'.now ∧ s' = { s with now := s'.now } ∧ es = [.issued c s.now s.deadline]
  | s, .detect _ _, _, es, s' => s.now ≤ s'.now ∧ s' = { s with now := s'.now } ∧ es = []
  | s, .stopRequested, answer, es, s' => (s.isPast → answer = true) ∧ s' = s ∧ es = []
  | s, .limitWork limit, _, es, s' =>
    s' = { s with deadline := limit.map (s.now + ·) } ∧ es = [.limited]
  | s, .look, seen, es, s' => seen.1 = s.now ∧ s' = s ∧ es = []
  | s, .revise _, _, es, s' | s, .log _, _, es, s' | s, .emit _, _, es, s' => s' = s ∧ es = []

abbrev Runs {α : Type} (p : Sync α) (s : Clock) (es : List Pulse) (a : α) (s' : Clock) : Prop :=
  Program.Runs Clock.react p s es a s'

abbrev Ensures {α : Type} (p : Sync α) (s : Clock) (post : List Pulse → α → Clock → Prop) : Prop :=
  Program.Ensures Clock.react p s post

variable {β : Type} {s : Clock} {post : List Pulse → β → Clock → Prop}

theorem ensures_call {c : Call} {f : Except Failure c.Reply → Sync β}
    (rest : ∀ reply t, s.now ≤ t → Ensures (f reply) { s with now := t }
      fun es => post (.issued c s.now s.deadline :: es)) : Ensures (call c >>= f) s post := by
  refine Program.ensures_perform_bind_iff.mpr ?_
  rintro reply es s' ⟨later, same, rfl⟩
  rw [same]
  exact rest reply _ later

theorem ensures_look {f : Nat × Caches → Sync β} (rest : ∀ seen, Ensures (f seen) s post) :
    Ensures (look >>= f) s post := by
  refine Program.ensures_perform_bind_iff.mpr ?_
  rintro seen es s' ⟨_, rfl, rfl⟩
  exact rest seen

theorem ensures_revise {change : Nat → Caches → Caches} {f : Unit → Sync β}
    (rest : Ensures (f ()) s post) : Ensures (revise change >>= f) s post := by
  refine Program.ensures_perform_bind_iff.mpr ?_
  rintro x es s' ⟨rfl, rfl⟩
  exact rest

theorem ensures_stopRequested {f : Bool → Sync β} (early : Ensures (f true) s post)
    (rest : s.isPast = false → Ensures (f false) s post) : Ensures (stopRequested >>= f) s post := by
  refine Program.ensures_perform_bind_iff.mpr ?_
  rintro answer es s' ⟨past, rfl, rfl⟩
  cases answer with
  | true => exact early
  | false => exact rest (eq_false_of_ne_true fun late => Bool.false_ne_true (past late))

theorem ensures_limitWork {limit : Option Nat} {f : Unit → Sync β}
    (rest : Ensures (f ()) { s with deadline := limit.map (s.now + ·) }
      fun es => post (.limited :: es)) : Ensures (limitWork limit >>= f) s post := by
  refine Program.ensures_perform_bind_iff.mpr ?_
  rintro x es s' ⟨rfl, rfl⟩
  exact rest

theorem ensures_detect {family : Family} {limit : Nat}
    {f : Option (Except Failure Address) → Sync β}
    (rest : ∀ answer s', Ensures (f answer) s' post) : Ensures (detect family limit >>= f) s post := by
  refine Program.ensures_perform_bind_iff.mpr ?_
  rintro answer es s' ⟨_, _, rfl⟩
  exact rest answer s'

theorem ensures_emit {event : Event} {f : Unit → Sync β} (rest : Ensures (f ()) s post) :
    Ensures (emit event >>= f) s post := by
  refine Program.ensures_perform_bind_iff.mpr ?_
  rintro x es s' ⟨rfl, rfl⟩
  exact rest

theorem ensures_silent {p : Sync Unit} {f : Unit → Sync β} (silent : Silent p)
    (rest : Ensures (f ()) s post) : Ensures (p >>= f) s post := by
  refine Program.Ensures.bind (silent.ensures (fun _ _ _ _ _ h => h.symm) s) ?_
  rintro es a s' ⟨rfl, rfl⟩
  exact rest

end Clock

namespace Simulation.World

def clock (w : World) : Clock := ⟨w.now, w.deadline⟩

def pulses : Sync.Request → World → List Pulse
  | .call c, w => [.issued c w.now w.deadline]
  | .limitWork _, _ => [.limited]
  | _, _ => []

variable {w : World}

theorem deadline_intervene (w : World) (i : Intervention) :
    (w.intervene i).2.deadline = w.deadline := by
  cases i with
  | source family sights => cases family <;> rfl
  | _ => rfl

theorem deadline_wait (w : World) (delay : Nat) : (w.wait delay).deadline = w.deadline := by
  have kept (due : List (Nat × Intervention)) (w : World) :
      (due.foldl (fun w entry => (w.intervene entry.2).2) w).deadline = w.deadline := by
    induction due generalizing w with
    | nil => rfl
    | cons entry due ih => exact (ih _).trans (deadline_intervene w entry.2)
  exact kept (w.agenda.span fun entry => entry.1 ≤ w.now + delay).1 w

theorem deadline_answerCall (w : World) (c : Call) : (w.answerCall c).2.deadline = w.deadline := by
  rw [← deadline_wait w (w.latency (kindOf c))]
  unfold answerCall
  dsimp only
  split <;> rfl

theorem deadline_answerDetect (w : World) (family : Family) (limit : Nat) :
    (w.answerDetect family limit).2.deadline = w.deadline := by
  unfold answerDetect
  rcases nextSight family (w.sights family) with ⟨sight, rest⟩
  have same : (w.setSights family rest).deadline = w.deadline := by cases family <;> rfl
  dsimp only
  split
  · exact (deadline_wait _ _).trans same
  · exact same
  · split
    · exact (deadline_wait _ _).trans same
    · exact (deadline_wait _ _).trans same

theorem isPast_clock (past : w.clock.isPast) : w.stopRequested = true := by
  refine Bool.or_eq_true_iff.mpr (.inr ?_)
  rw [clock, Clock.isPast] at past
  cases due : w.deadline with
  | none =>
    rw [due] at past
    cases past
  | some deadline =>
    rw [due] at past
    exact decide_eq_true (Nat.le_of_lt (of_decide_eq_true past))

theorem clock_react (r : Sync.Request) (w : World) :
    w.clock.react r (answer r w).1 (pulses r w) (answer r w).2.clock := by
  have waited {w' : World} {t : Nat} (later : w.now ≤ t) (now : w'.watch = { w.watch with now := t })
      (deadline : w'.deadline = w.deadline) :
      w.clock.now ≤ w'.clock.now ∧ w'.clock = { w.clock with now := w'.clock.now } := by
    have now : w'.now = t := congrArg Watch.now now
    exact ⟨Nat.le_trans later (Nat.le_of_eq now.symm), congrArg (Clock.mk w'.now) deadline⟩
  cases r with
  | call c =>
    obtain ⟨later, same⟩ := waited (Nat.le_add_right w.now _) (watch_answerCall w c)
      (deadline_answerCall w c)
    exact ⟨later, same, rfl⟩
  | detect family limit =>
    obtain ⟨t, later, now⟩ := watch_answerDetect w family limit
    obtain ⟨later, same⟩ := waited later now (deadline_answerDetect w family limit)
    exact ⟨later, same, rfl⟩
  | stopRequested => exact ⟨isPast_clock, rfl, rfl⟩
  | look => exact ⟨rfl, rfl, rfl⟩
  | emit event =>
    refine ⟨?_, rfl⟩
    change (w.addEvent event).clock = w.clock
    unfold addEvent
    split <;> rfl
  | revise | limitWork | log => exact ⟨rfl, rfl⟩

theorem clock_run {α : Type} (p : Sync α) (w : World) :
    Clock.Runs p w.clock (Program.trace answer pulses p w) (w.run p).1 (w.run p).2.clock :=
  Program.runs_trace clock (fun _ => True) (fun _ _ _ => trivial) (fun r w _ => clock_react r w) p w
    trivial

end Simulation.World

end AddressSync
