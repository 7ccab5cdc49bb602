import AddressSync.Proofs.Surroundings.Clocked

/-! Surroundings with a receiver, which fetches the news while there is more to come. How much it has
fetched when something is told is open; so are the replies to calls, what is detected, and the time
that either takes. Whether work with a deadline is asked to stop is open too, but work without one is
asked to stop exactly from the time of the shutdown on. -/

namespace AddressSync

open Sync Simulation

structure News where
  event : Event
  waiting : Nat

structure Attended where
  now : Nat
  limited : Bool
  waiting : List Event
  fetched : List Event

namespace Attended

def fresh (now : Nat) : Attended := ⟨now, false, [], []⟩

def fetch (s : Attended) (n : Nat) : Attended :=
  { s with waiting := s.waiting.drop n, fetched := s.fetched ++ s.waiting.take n }

def leave (s : Attended) (capacity : Nat) (event : Event) : Attended :=
  if s.waiting.length < capacity then { s with waiting := s.waiting ++ [event] } else s

def idle (instant : Nat) (s : Attended) : Attended := { s with now := max s.now instant }

/-- Without a time for the shutdown, only deadlines stop work. -/
def react (shutdown : Option Nat) (capacity : Nat) :
    Program.Reaction Sync.signature Attended News
  | s, .call _, _, es, s' | s, .detect _ _, _, es, s' =>
    s.now ≤ s'.now ∧ s' = { s with now := s'.now } ∧ es = []
  | s, .stopRequested, answer, es, s' =>
    (s.limited = false → answer = shutdown.any (· ≤ s.now)) ∧ s' = s ∧ es = []
  | s, .limitWork limit, _, es, s' => s' = { s with limited := limit.isSome } ∧ es = []
  | s, .emit event, _, es, s' => ∃ n, s' = (s.fetch n).leave capacity event ∧
    es = [⟨event, (s.fetch n).waiting.length⟩]
  | s, .look, _, es, s' | s, .revise _, _, es, s' | s, .log _, _, es, s' => s' = s ∧ es = []

abbrev Runs {α : Type} (shutdown : Option Nat) (capacity : Nat) (p : Sync α) (s : Attended)
    (es : List News) (a : α) (s' : Attended) : Prop :=
  Program.Runs (react shutdown capacity) p s es a s'

abbrev Ensures {α : Type} (shutdown : Option Nat) (capacity : Nat) (p : Sync α) (s : Attended)
    (post : List News → α → Attended → Prop) : Prop :=
  Program.Ensures (react shutdown capacity) p s post

def arriving (s : Attended) : List Event := s.fetched ++ s.waiting

def admitted (capacity : Nat) (es : List News) : List Event :=
  (es.filter (·.waiting < capacity)).map News.event

variable {α β : Type} {shutdown : Option Nat} {capacity : Nat} {s s' s'' : Attended} {p : Sync α}
  {es es' : List News}

@[simp] theorem arriving_fetch (s : Attended) (n : Nat) : (s.fetch n).arriving = s.arriving := by
  simp [arriving, fetch, List.append_assoc]

theorem arriving_leave (s : Attended) (event : Event) :
    (s.leave capacity event).arriving =
      s.arriving ++ admitted capacity [⟨event, s.waiting.length⟩] := by
  by_cases room : s.waiting.length < capacity <;> simp [leave, arriving, admitted, room]

@[simp] theorem now_leave (s : Attended) (event : Event) : (s.leave capacity event).now = s.now := by
  unfold leave
  split <;> rfl

@[simp] theorem limited_leave (s : Attended) (event : Event) :
    (s.leave capacity event).limited = s.limited := by
  unfold leave
  split <;> rfl

theorem admitted_append :
    admitted capacity (es ++ es') = admitted capacity es ++ admitted capacity es' := by
  simp [admitted]

/-- Time does not go back, and of the news those arrive for which there was room, in their order. Never
more wait than there is room for. -/
structure Follows (capacity : Nat) (s : Attended) (es : List News) (s' : Attended) : Prop where
  later : s.now ≤ s'.now
  arriving : s'.arriving = s.arriving ++ admitted capacity es
  room : s.waiting.length ≤ capacity →
    s'.waiting.length ≤ capacity ∧ ∀ news ∈ es, news.waiting ≤ capacity

theorem follows_refl (s : Attended) : Follows capacity s [] s where
  later := Nat.le_refl _
  arriving := by simp [admitted]
  room within := ⟨within, by simp⟩

theorem Follows.trans (first : Follows capacity s es s') (rest : Follows capacity s' es' s'') :
    Follows capacity s (es ++ es') s'' where
  later := Nat.le_trans first.later rest.later
  arriving := by rw [rest.arriving, first.arriving, admitted_append, List.append_assoc]
  room within := by
    obtain ⟨middle, before⟩ := first.room within
    obtain ⟨last, after⟩ := rest.room middle
    exact ⟨last, List.forall_mem_append.mpr ⟨before, after⟩⟩

theorem follows_idle (s : Attended) (instant : Nat) : Follows capacity s [] (s.idle instant) where
  later := Nat.le_max_left ..
  arriving := by simp [admitted, Attended.arriving, idle]
  room within := ⟨within, by simp⟩

theorem follows_emit (s : Attended) (n : Nat) (event : Event) : Follows capacity s
    [⟨event, (s.fetch n).waiting.length⟩] ((s.fetch n).leave capacity event) where
  later := by simp [fetch]
  arriving := by rw [arriving_leave, arriving_fetch]
  room within := by
    have fewer : (s.fetch n).waiting.length ≤ capacity := by
      simp only [fetch, List.length_drop]
      omega
    refine ⟨?_, by simpa using fewer⟩
    unfold leave
    split
    · rw [List.length_append, List.length_singleton]
      omega
    · exact fewer

theorem follows_react {r : Request} {x : Answer r} (answered : react shutdown capacity s r x es s') :
    Follows capacity s es s' := by
  have waited {t : Nat} (later : s.now ≤ t) (limited : Bool) :
      Follows capacity s [] { s with now := t, limited } :=
    ⟨later, by simp [admitted, Attended.arriving], fun within => ⟨within, by simp⟩⟩
  cases r with
  | call | detect =>
    obtain ⟨later, same, rfl⟩ := answered
    rw [same]
    exact waited later s.limited
  | stopRequested =>
    obtain ⟨-, rfl, rfl⟩ := answered
    exact follows_refl s'
  | limitWork =>
    obtain ⟨rfl, rfl⟩ := answered
    exact waited (Nat.le_refl _) _
  | emit event =>
    obtain ⟨n, rfl, rfl⟩ := answered
    exact follows_emit s n event
  | look | revise | log =>
    obtain ⟨rfl, rfl⟩ := answered
    exact follows_refl s'

theorem Runs.follows {a : α} (run : Runs shutdown capacity p s es a s') :
    Follows capacity s es s' := by
  induction run with
  | done a s => exact follows_refl s
  | ask answered _ ih => exact (follows_react answered).trans ih

variable {post : List News → β → Attended → Prop}

theorem ensures_emit {event : Event} {f : Unit → Sync β}
    (rest : ∀ n s', s'.now = s.now → s'.limited = s.limited →
      Ensures shutdown capacity (f ()) s' fun es => post (⟨event, n⟩ :: es)) :
    Ensures shutdown capacity (emit event >>= f) s post := by
  refine Program.ensures_perform_bind_iff.mpr ?_
  rintro x es s' ⟨n, rfl, rfl⟩
  exact rest _ _ (by simp [fetch]) (by simp [fetch])

theorem ensures_silent {p : Sync Unit} {f : Unit → Sync β} (silent : Silent p)
    (rest : Ensures shutdown capacity (f ()) s post) :
    Ensures shutdown capacity (p >>= f) s post := by
  refine Program.Ensures.bind (silent.ensures (fun _ _ _ _ _ h => h.symm) s) ?_
  rintro es a s' ⟨rfl, rfl⟩
  exact rest

theorem ensures_detect {family : Family} {limit : Nat} {f : Option (Except Failure Address) → Sync β}
    (rest : ∀ answer s', s'.limited = s.limited → Ensures shutdown capacity (f answer) s' post) :
    Ensures shutdown capacity (detect family limit >>= f) s post := by
  refine Program.ensures_perform_bind_iff.mpr ?_
  rintro answer es s' ⟨_, same, rfl⟩
  exact rest answer s' (by rw [same])

theorem ensures_stopRequested {f : Bool → Sync β} (free : s.limited = false)
    (rest : Ensures shutdown capacity (f (shutdown.any (· ≤ s.now))) s post) :
    Ensures shutdown capacity (stopRequested >>= f) s post := by
  refine Program.ensures_perform_bind_iff.mpr ?_
  rintro answer es s' ⟨asked, rfl, rfl⟩
  rw [asked free]
  exact rest

end Attended

namespace Simulation.World

variable {w : World}

/-- What of the world a receiver is concerned with that fetches nothing before the end. -/
def attended (w : World) : Attended := ⟨w.now, w.deadline.isSome, w.events, []⟩

theorem told_attended (w : World) : w.attended.fetched ++ w.attended.waiting = w.events := rfl

def news : Sync.Request → World → List News
  | .emit event, w => [⟨event, w.events.length⟩]
  | _, _ => []

def standing (w : World) : Option Nat × Stop × Nat × List Event :=
  (w.deadline, w.stop, w.capacity, w.events)

theorem standing_intervene (w : World) (i : Intervention) :
    (w.intervene i).2.standing = w.standing := by
  cases i with
  | source family sights => cases family <;> rfl
  | _ => rfl

theorem standing_idle (w : World) (instant : Nat) : (w.idle instant).standing = w.standing := by
  have kept (due : List (Nat × Intervention)) (w : World) :
      (due.foldl (fun w entry => (w.intervene entry.2).2) w).standing = w.standing := by
    induction due generalizing w with
    | nil => rfl
    | cons entry due ih => rw [List.foldl_cons, ih, standing_intervene]
  exact kept (w.agenda.span fun entry => entry.1 ≤ instant).1 w

theorem standing_setSights (w : World) (family : Family) (sights : List Sight) :
    (w.setSights family sights).standing = w.standing := by
  cases family <;> rfl

theorem standing_answerDetect (w : World) (family : Family) (limit : Nat) :
    (w.answerDetect family limit).2.standing = w.standing := by
  unfold answerDetect
  rcases nextSight family (w.sights family) with ⟨sight, rest⟩
  have same := standing_setSights w family rest
  have waits (delay : Nat) : ((w.setSights family rest).wait delay).standing = w.standing :=
    (standing_idle _ _).trans same
  dsimp only
  split
  · exact waits limit
  · exact same
  · split
    · exact waits limit
    · exact waits _

structure StopsBy (shutdown : Option Nat) (capacity : Nat) (w : World) : Prop where
  stop : w.stop = { time := shutdown }
  capacity : w.capacity = capacity

variable {shutdown : Option Nat} {capacity : Nat} {w w' : World}

theorem StopsBy.of_standing (h : w.StopsBy shutdown capacity) (same : w'.standing = w.standing) :
    w'.StopsBy shutdown capacity ∧ w'.attended = { w.attended with now := w'.now } := by
  simp only [standing, Prod.mk.injEq] at same
  obtain ⟨deadline, stop, room, events⟩ := same
  exact ⟨⟨stop.trans h.stop, room.trans h.capacity⟩, by rw [attended, deadline, events]; rfl⟩

theorem StopsBy.idle (h : w.StopsBy shutdown capacity) (instant : Nat) :
    (w.idle instant).StopsBy shutdown capacity ∧
      (w.idle instant).attended = w.attended.idle instant := by
  obtain ⟨kept, same⟩ := h.of_standing (standing_idle w instant)
  have now : (w.idle instant).now = max w.now instant := congrArg Watch.now (watch_idle w instant)
  rw [now] at same
  exact ⟨kept, same⟩

theorem StopsBy.answerCall (h : w.StopsBy shutdown capacity) (c : Call) :
    (w.answerCall c).2.StopsBy shutdown capacity ∧
      (w.answerCall c).2.attended = { w.attended with now := (w.answerCall c).2.now } := by
  have same := standing_idle w (w.now + w.latency (kindOf c))
  have stop : (w.answerCall c).2.standing = w.standing := by
    simp only [standing, Prod.mk.injEq] at same ⊢
    obtain ⟨deadline, stop, room, events⟩ := same
    rw [h.stop] at stop
    unfold World.answerCall
    dsimp only [wait] at *
    split <;> simp [note, afterCall, h.stop, *]
  exact h.of_standing stop

theorem stopRequested_of_deadline (h : w.StopsBy shutdown capacity) (free : w.deadline = none) :
    w.stopRequested = shutdown.any (· ≤ w.now) := by
  simp [stopRequested, stopAsked, h.stop, free]

theorem attended_addEvent (h : w.StopsBy shutdown capacity) (event : Event) :
    (w.addEvent event).StopsBy shutdown capacity ∧
      (w.addEvent event).attended = w.attended.leave capacity event := by
  have room := h.capacity
  unfold addEvent Attended.leave attended
  split
  · exact ⟨⟨h.stop, h.capacity⟩, by simp_all⟩
  · exact ⟨⟨h.stop, h.capacity⟩, by simp_all [addLine]⟩

theorem attended_react (r : Sync.Request) (h : w.StopsBy shutdown capacity) :
    (answer r w).2.StopsBy shutdown capacity ∧
      Attended.react shutdown capacity w.attended r (answer r w).1 (news r w)
        (answer r w).2.attended := by
  cases r with
  | call c =>
    obtain ⟨kept, same⟩ := h.answerCall c
    have later : w.now ≤ (w.answerCall c).2.now := by
      have called := congrArg Watch.now (watch_answerCall w c)
      exact Nat.le_trans (Nat.le_add_right ..) (Nat.le_of_eq called.symm)
    exact ⟨kept, later, same, rfl⟩
  | detect family limit =>
    obtain ⟨kept, same⟩ := h.of_standing (standing_answerDetect w family limit)
    obtain ⟨t, later, now⟩ := watch_answerDetect w family limit
    have now : (w.answerDetect family limit).2.now = t := congrArg Watch.now now
    exact ⟨kept, Nat.le_trans later (Nat.le_of_eq now.symm), same, rfl⟩
  | stopRequested =>
    refine ⟨h, fun free => ?_, rfl, rfl⟩
    have free : w.deadline = none := by simpa [attended] using free
    exact stopRequested_of_deadline h free
  | limitWork limit =>
    exact ⟨⟨h.stop, h.capacity⟩, by cases limit <;> rfl, rfl⟩
  | emit event =>
    obtain ⟨kept, same⟩ := attended_addEvent h event
    exact ⟨kept, 0, same, rfl⟩
  | look | revise | log => exact ⟨⟨h.stop, h.capacity⟩, rfl, rfl⟩

theorem StopsBy.run {α : Type} (h : w.StopsBy shutdown capacity) (p : Sync α) :
    (w.run p).2.StopsBy shutdown capacity := by
  induction p generalizing w with
  | done a => exact h
  | ask r next ih => exact ih _ (attended_react r h).1

/-- The simulation's run of a program is a run with a receiver that fetches nothing before the end,
whatever others do meanwhile. -/
theorem attended_run {α : Type} (p : Sync α) (h : w.StopsBy shutdown capacity) :
    Attended.Runs shutdown capacity p w.attended (Program.trace answer news p w) (w.run p).1
      (w.run p).2.attended :=
  Program.runs_trace attended (StopsBy shutdown capacity) (fun r _ h => (attended_react r h).1)
    (fun r _ h => (attended_react r h).2) p w h

end Simulation.World

end AddressSync
