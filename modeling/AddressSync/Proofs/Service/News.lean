import AddressSync.Proofs.Reconcile.Tidiness
import AddressSync.Proofs.Service.Rounds
import AddressSync.Proofs.Service.Sighting

/-! What a whole run of the service tells, event by event. Of the news of a cycle, those about the
addresses say which domains are due, and unless the shutdown comes meanwhile there is a report about
each of them and about each list. A receiver gets all of it but what was told while too much waited. -/

namespace AddressSync

open Sync Simulation Reconcile

namespace Reconcile

structure Concerns (about : Subject) (work : Sync Report) : Prop where
  only : ∃ Q, OnlyAsks (Calls Q) work
  reports : work.Returns (·.subject = about)

theorem concerns_publish (domain : Domain) (family : Family) (address : Address)
    (attributes : Attributes) :
    Concerns (.records domain.print family) (publish domain family address attributes) := by
  refine ⟨⟨_, onlyCalls_publish domain family address attributes⟩, ?_⟩
  unfold publish
  dsimp only
  split
  · exact .bind fun _ => rfl
  · refine .bind fun stop => ?_
    split
    · rfl
    · refine .bind fun located => ?_
      split
      · rfl
      · exact .bind fun _ => rfl

theorem concerns_withdraw (domain : Domain) (family : Family) :
    Concerns (.records domain.print family) (withdraw domain family true) := by
  refine ⟨⟨_, onlyCalls_withdraw domain family true⟩, .bind fun stop => ?_⟩
  split
  · rfl
  · refine .bind fun located => ?_
    split
    · rfl
    · exact .bind fun _ => rfl
    · exact .bind fun _ => rfl

theorem concerns_populate (target : ListTarget) (sightings : Sightings) :
    Concerns (.list target.print) (populate target sightings) := by
  refine ⟨⟨_, onlyCalls_populate target sightings⟩, .bind fun stop => ?_⟩
  split
  · rfl
  · refine .bind fun obtained => ?_
    split
    · exact .bind fun _ => rfl
    · refine .guard (.bind fun listed => ?_)
      split
      · exact .bind fun _ => rfl
      · refine .bind fun _ => ?_
        dsimp only
        split
        · exact .bind fun _ => rfl
        · exact .bind fun _ => rfl

theorem concerns_retire (target : ListTarget) : Concerns (.list target.print) (retire target) := by
  refine ⟨⟨_, onlyCalls_retire target⟩, .bind fun stop => ?_⟩
  split
  · rfl
  · refine .bind fun _ => .bind fun found => ?_
    split
    · exact .bind fun _ => rfl
    · exact .bind fun _ => rfl
    · refine .bind fun deleted => ?_
      split
      · exact .bind fun _ => rfl
      · refine .bind fun _ => .bind fun emptied => ?_
        split <;> exact .bind fun _ => rfl

end Reconcile

def Event.family? : Event → Option Family
  | .detected family _ | .notDetected family _ => some family
  | _ => none

def Event.sighting? (family : Family) : Event → Option Sighting
  | .detected family' address => if family' = family then some (.seen address) else none
  | .notDetected family' _ => if family' = family then some .unknown else none
  | _ => none

def lastTold (family : Family) (events : List Event) : Option Sighting :=
  (events.filterMap (Event.sighting? family)).getLast?

theorem lastTold_cons (family : Family) (event : Event) (events : List Event) :
    lastTold family (event :: events) = (lastTold family events).or (event.sighting? family) := by
  unfold lastTold
  rw [List.filterMap_cons]
  cases event.sighting? family with
  | none => simp
  | some sighting =>
    simp only [List.getLast?_cons]
    cases (events.filterMap (Event.sighting? family)).getLast? <;> rfl

def Event.endedIn (outcome : Outcome) : Event → Bool
  | .reconciled report => report.outcome = outcome
  | _ => false

/-- The reports with an outcome are as many as the events that tell of it. -/
theorem countOutcome_eq_countP (reports : List Report) (outcome : Outcome) :
    countOutcome reports outcome =
      (reports.map Event.reconciled).countP (Event.endedIn outcome) := by
  rw [countOutcome, ← List.countP_eq_length_filter, List.countP_map]
  rfl

theorem countP_detections {detections : List Event} {families : List Family}
    (each : detections.map Event.family? = families.map some) (outcome : Outcome) :
    detections.countP (Event.endedIn outcome) = 0 := by
  refine List.countP_eq_zero.mpr fun event mem ended => ?_
  have named : event.family? ∈ families.map some := each ▸ List.mem_map_of_mem mem
  cases event with
  | reconciled => simp [Event.family?] at named
  | started | cycleStarted | detected | notDetected | cycleFinished | stopped => cases ended

def Service.dueOf (service : Service) (sighting : Option Sighting) (family : Family) : List Subject :=
  match sighting with
  | some (.seen _) => (service.settings.domains family).map fun d => .records d.print family
  | _ => []

/-- The subjects that are due in a cycle, where `told` is what was told last of each family. -/
def Service.due (service : Service) (told : Family → Option Sighting) : List Subject :=
  service.settings.families.flatMap (fun family => service.dueOf (told family) family) ++
    service.settings.lists.map fun list => .list list.print

/-- What is told of a cycle, from its beginning to its end: what came of the detection of each family, the
reports, and how many of these events told that work was updated, and how many that it failed. Unless
the shutdown came meanwhile, the reports are about all that was due. -/
structure Service.TellsCycle (service : Service) (shutdown finish : Nat) (reports : List Report)
    (detections events : List Event) : Prop where
  events : ∃ updated failed, events =
      .cycleStarted :: (detections ++ reports.map .reconciled ++ [.cycleFinished updated failed]) ∧
    updated = events.countP (Event.endedIn .updated) ∧
    failed = events.countP (Event.endedIn .failed)
  families : detections.map Event.family? = service.settings.families.map some
  subjects : finish < shutdown →
    reports.map Report.subject = service.due fun family => lastTold family detections

theorem Service.TellsCycle.of_count {service : Service} {shutdown finish : Nat} {reports : List Report}
    {detections events : List Event}
    (told : events = .cycleStarted :: (detections ++ reports.map .reconciled ++
      [.cycleFinished (countOutcome reports .updated) (countOutcome reports .failed)]))
    (families : detections.map Event.family? = service.settings.families.map some)
    (subjects : finish < shutdown →
      reports.map Report.subject = service.due fun family => lastTold family detections) :
    service.TellsCycle shutdown finish reports detections events := by
  have counted (outcome : Outcome) :
      countOutcome reports outcome = events.countP (Event.endedIn outcome) := by
    rw [told, countOutcome_eq_countP]
    simp [countP_detections families, Event.endedIn]
  exact ⟨⟨_, _, told, counted .updated, counted .failed⟩, families, subjects⟩

namespace Attended

open Service

variable {α γ : Type} {stop : Option Nat} {shutdown capacity : Nat} {s s' : Attended} {es : List News}
  {service : Service} {subject : Subject} {work : Sync Report}

theorem ensures_quiet {p : Sync α} {Q : Call → Prop} (only : OnlyAsks (Calls Q) p) (s : Attended) :
    Ensures stop capacity p s fun es _ s' => es = [] ∧ s'.limited = s.limited := by
  intro es a s' run
  refine Program.Asks.relates (R := fun s es s' => es = [] ∧ s'.limited = s.limited) only run
    (fun _ => ⟨rfl, rfl⟩) ?_
  rintro s r x es s' es' s'' allowed answered ⟨rfl, kept⟩
  rw [kept, List.append_nil]
  cases r with
  | call =>
    obtain ⟨-, same, told⟩ := answered
    exact ⟨told, by rw [same]⟩
  | stopRequested =>
    obtain ⟨-, rfl, told⟩ := answered
    exact ⟨told, rfl⟩
  | detect | emit | limitWork => cases allowed
  | look | revise | log =>
    obtain ⟨rfl, told⟩ := answered
    exact ⟨told, rfl⟩

theorem ensures_later {p : Sync α} (s : Attended) :
    Ensures stop capacity p s fun _ _ s' => s.now ≤ s'.now :=
  fun _ _ _ run => (Runs.follows run).later

theorem ensures_limitWork {limit : Option Nat} {f : Unit → Sync α}
    {post : List News → α → Attended → Prop}
    (rest : Ensures stop capacity (f ()) { s with limited := limit.isSome } post) :
    Ensures stop capacity (limitWork limit >>= f) s post := by
  refine Program.ensures_perform_bind_iff.mpr ?_
  rintro x es s' ⟨rfl, rfl⟩
  exact rest

theorem ensures_reconcile (concerns : Concerns subject work) (s : Attended) :
    Ensures stop capacity (service.reconcile work) s fun es report s' =>
      es.map News.event = [.reconciled report] ∧ report.subject = subject ∧ s'.limited = false := by
  obtain ⟨⟨Q, only⟩, reports⟩ := concerns
  have within : Ensures stop capacity (within service.updateLimit work) s fun es report s' =>
      es = [] ∧ report.subject = subject ∧ s'.limited = false := by
    refine ensures_limitWork ?_
    refine Program.Ensures.bind ((ensures_quiet only _).and Program.ensures_runs) ?_
    rintro es report s' ⟨⟨rfl, -⟩, run⟩
    refine ensures_limitWork (Program.ensures_pure_iff.mpr ⟨rfl, reports.of_run run, rfl⟩)
  refine Program.Ensures.bind within ?_
  rintro es report s' ⟨rfl, about, free⟩
  refine ensures_emit fun n s'' _ limited => Program.ensures_pure_iff.mpr ?_
  exact ⟨rfl, about, limited.trans free⟩

theorem ensures_untilStopped {about : γ → Subject} {work : γ → Sync Report} {items : List γ}
    (each : ∀ x ∈ items, Concerns (about x) (work x)) (free : s.limited = false) :
    Ensures (some shutdown) capacity (service.untilStopped (items.map work)) s fun es reports s' =>
      es.map News.event = reports.map .reconciled ∧ s'.limited = false ∧
        (s'.now < shutdown → reports.map Report.subject = items.map about) := by
  induction items generalizing s with
  | nil => exact Program.ensures_pure_iff.mpr ⟨rfl, free, fun _ => rfl⟩
  | cons x items ih =>
    obtain ⟨first, rest⟩ := List.forall_mem_cons.mp each
    refine ensures_stopRequested free ?_
    by_cases late : shutdown ≤ s.now
    · simp only [Option.any_some, late, decide_true, if_true]
      refine Program.ensures_pure_iff.mpr ⟨rfl, free, fun early => ?_⟩
      omega
    · simp only [Option.any_some, late, decide_false, Bool.false_eq_true, if_false]
      refine Program.Ensures.bind (ensures_reconcile first s) fun es report s₁ ⟨told, same, free⟩ => ?_
      refine Program.Ensures.bind ((ih rest free).and (ensures_later s₁)) ?_
      rintro es' reports s' ⟨⟨told', free, all⟩, later⟩
      refine Program.ensures_pure_iff.mpr ⟨?_, free, fun early => ?_⟩
      · simp [told, told']
      · simp [same, all early]

theorem ensures_publishAll {sightings : Sightings} {families : List Family} (free : s.limited = false) :
    Ensures (some shutdown) capacity (service.publishAll sightings families) s fun es reports s' =>
      es.map News.event = reports.map .reconciled ∧ s'.limited = false ∧
        (s'.now < shutdown → reports.map Report.subject =
          families.flatMap fun family => service.dueOf (some (sightings.of family)) family) := by
  induction families generalizing s with
  | nil => exact Program.ensures_pure_iff.mpr ⟨rfl, free, fun _ => rfl⟩
  | cons family families ih =>
    have here : Ensures (some shutdown) capacity (service.publishFamily sightings family) s
        fun es reports s' => es.map News.event = reports.map .reconciled ∧ s'.limited = false ∧
          (s'.now < shutdown →
            reports.map Report.subject = service.dueOf (some (sightings.of family)) family) := by
      unfold publishFamily dueOf
      dsimp only
      split
      · next address sighted =>
        rw [sighted]
        exact ensures_untilStopped (fun d _ => concerns_publish d family address _) free
      all_goals
        next sighted =>
        rw [sighted]
        split
        · refine ensures_silent (silent_log _ _ _) (Program.ensures_pure_iff.mpr ?_)
          exact ⟨rfl, free, fun _ => rfl⟩
        · exact Program.ensures_pure_iff.mpr ⟨rfl, free, fun _ => rfl⟩
    refine Program.Ensures.bind here fun es reports s₁ ⟨told, free, all⟩ => ?_
    refine Program.Ensures.bind ((ih free).and (ensures_later s₁)) ?_
    rintro es' reports' s' ⟨⟨told', free, all'⟩, later⟩
    refine Program.ensures_pure_iff.mpr ⟨?_, free, fun early => ?_⟩
    · simp [told, told']
    · simp [all (by omega), all' early]

theorem ensures_detectOne (family : Family) (s : Attended) :
    Ensures stop capacity (service.detectOne family) s fun es _ s' =>
      es = [] ∧ s'.limited = s.limited := by
  refine ensures_detect fun answer s' limited => ?_
  split
  · exact Program.ensures_pure_iff.mpr ⟨rfl, limited⟩
  · exact Program.ensures_pure_iff.mpr ⟨rfl, limited⟩
  · split <;> exact Program.ensures_pure_iff.mpr ⟨rfl, limited⟩

theorem ensures_detectAll {sightings : Sightings} {families : List Family} (free : s.limited = false) :
    Ensures stop capacity (service.detectAll sightings families) s fun es after s' =>
      (es.map News.event).map Event.family? = families.map some ∧ s'.limited = false ∧
        ∀ family, after.of family =
          (lastTold family (es.map News.event)).getD (sightings.of family) := by
  induction families generalizing sightings s with
  | nil => exact Program.ensures_pure_iff.mpr ⟨rfl, free, fun _ => rfl⟩
  | cons family families ih =>
    have next {event : Event} {sighting : Sighting} {s₁ : Attended} (free : s₁.limited = false)
        (named : event.family? = some family)
        (told : ∀ f, event.sighting? f = if family = f then some sighting else none) :
        Ensures stop capacity
          (emit event >>= fun _ => service.detectAll (sightings.set family sighting) families) s₁
          fun es after s' => (es.map News.event).map Event.family? = (family :: families).map some ∧
            s'.limited = false ∧ ∀ family, after.of family =
              (lastTold family (es.map News.event)).getD (sightings.of family) := by
      refine ensures_emit fun n s₂ _ limited => ?_
      refine (ih (limited.trans free)).mono fun es after s' ⟨families, free, known⟩ => ⟨?_, free, ?_⟩
      · simp [named, ← families]
      · intro f
        rw [known f, of_set, List.map_cons, lastTold_cons, told f]
        cases lastTold f (es.map News.event) with
        | some sighting => rfl
        | none => by_cases same : family = f <;> simp [same, eq_comm]
    refine Program.Ensures.bind (ensures_detectOne family s) ?_
    rintro es result s₁ ⟨rfl, same⟩
    rw [free] at same
    cases result with
    | ok address =>
      exact ensures_silent (silent_log _ _ _) (next same rfl fun _ => rfl)
    | error e => exact ensures_silent (silent_log _ _ _) (next same rfl fun _ => rfl)

theorem ensures_cycle (free : s.limited = false) :
    Ensures (some shutdown) capacity service.cycle s fun es reports s' => s'.limited = false ∧
      ∃ detections, service.TellsCycle shutdown s'.now reports detections (es.map News.event) := by
  refine ensures_emit fun n s₀ _ limited => ensures_silent (silent_log _ _ _) ?_
  refine Program.Ensures.bind (ensures_detectAll (limited.trans free)) ?_
  rintro es sightings s₁ ⟨families, free, known⟩
  refine Program.Ensures.bind (ensures_publishAll free) ?_
  rintro es₁ records s₂ ⟨told₁, free, all₁⟩
  refine Program.Ensures.bind ((ensures_untilStopped
    (fun list _ => concerns_populate list sightings) free).and (ensures_later s₂)) ?_
  rintro es₂ lists s₃ ⟨⟨told₂, free, all₂⟩, later⟩
  have ends {s₄ : Attended} (n' : Nat) (now : s₄.now = s₃.now) (limited : s₄.limited = s₃.limited) :
      s₄.limited = false ∧ ∃ detections, service.TellsCycle shutdown s₄.now (records ++ lists) detections
        ((⟨.cycleStarted, n⟩ :: (es ++ (es₁ ++ (es₂ ++ [⟨.cycleFinished
          (countOutcome (records ++ lists) .updated)
          (countOutcome (records ++ lists) .failed), n'⟩])))).map News.event) := by
    refine ⟨limited.trans free, es.map News.event, .of_count ?_ families fun early => ?_⟩
    · simp [told₁, told₂]
    · rw [List.map_append, all₁ (by omega), all₂ (by omega), due]
      -- What was told last of a family is what the cycle goes by; untold, none of its domains is due.
      refine congrArg (· ++ _) (congrArg (List.flatMap · _) (funext fun family => ?_))
      rw [known family]
      cases lastTold family (es.map News.event) with
      | none => cases family <;> rfl
      | some sighting => rfl
  refine ensures_emit fun n' s₄ now limited => ?_
  split
  · exact ensures_silent (silent_log _ _ _) (Program.ensures_pure_iff.mpr (ends n' now limited))
  · exact ensures_silent (silent_log _ _ _) (Program.ensures_pure_iff.mpr (ends n' now limited))

theorem ensures_throughout {about : γ → Subject} {work : γ → Sync Report} {items : List γ}
    (each : ∀ x ∈ items, Concerns (about x) (work x)) (s : Attended) :
    Ensures stop capacity (service.throughout (items.map work)) s fun es reports _ =>
      es.map News.event = reports.map .reconciled ∧ reports.map Report.subject = items.map about := by
  induction items generalizing s with
  | nil => exact Program.ensures_pure_iff.mpr ⟨rfl, rfl⟩
  | cons x items ih =>
    obtain ⟨first, rest⟩ := List.forall_mem_cons.mp each
    refine Program.Ensures.bind (ensures_reconcile first s) fun es report s₁ ⟨told, same, _⟩ => ?_
    refine Program.Ensures.bind (ih rest s₁) fun es' reports s' ⟨told', all⟩ => ?_
    refine Program.ensures_pure_iff.mpr ⟨?_, ?_⟩
    · simp [told, told']
    · simp [same, all]

theorem ensures_cleanUp (s : Attended) : Ensures stop capacity service.cleanUp s fun es _ _ =>
    ∃ reports : List Report, es.map News.event = reports.map .reconciled ∧
      reports.map Report.subject = service.managed.map Managed.subject := by
  have each : ∀ m ∈ service.managed, Concerns m.subject m.removal := by
    intro m _
    cases m with
    | records domain family => exact concerns_withdraw domain family
    | list target => exact concerns_retire target
  have flush : OnlyAsks (Calls fun _ => False) Directory.flush :=
    onlyAsks_revise (usual_calls _) stamping_flush
  refine ensures_silent (silent_log _ _ _) ?_
  refine Program.Ensures.bind (ensures_quiet flush s) ?_
  rintro es _ s₁ ⟨rfl, -⟩
  rw [removals_eq_map]
  refine Program.Ensures.bind (ensures_throughout each s₁) fun es reports s₂ done => ?_
  dsimp only
  split
  · refine ensures_silent (silent_log _ _ _) (Program.ensures_pure_iff.mpr ?_)
    exact ⟨reports, by simpa using done⟩
  · exact Program.ensures_pure_iff.mpr ⟨reports, by simpa using done⟩

theorem ensures_conclude (s : Attended) : Ensures stop capacity service.conclude s fun es _ _ =>
    ∃ reports : List Report,
      es.map News.event = reports.map .reconciled ++ [.stopped "Shutdown signal"] ∧
      reports.map Report.subject =
        if service.settings.timing.deleteOnStop then service.managed.map Managed.subject else [] := by
  have ends {result : Except Failure Unit} {es : List News} {s₁ : Attended} {reports : List Report}
      {subjects : List Subject} (told : es.map News.event = reports.map .reconciled)
      (all : reports.map Report.subject = subjects) :
      Ensures stop capacity (emit (.stopped "Shutdown signal") >>= fun _ =>
        log .info "Sync engine stopped" [] >>= fun _ => pure result) s₁ fun es' _ _ =>
          ∃ reports : List Report, (es ++ es').map News.event =
            reports.map .reconciled ++ [.stopped "Shutdown signal"] ∧
              reports.map Report.subject = subjects := by
    refine ensures_emit fun n s₂ _ _ => ensures_silent (silent_log _ _ _) ?_
    exact Program.ensures_pure_iff.mpr ⟨reports, by simp [told], all⟩
  refine ensures_silent (silent_log _ _ _) ?_
  dsimp only
  split
  · exact Program.Ensures.bind (ensures_cleanUp s)
      fun es result s₁ ⟨reports, told, all⟩ => ends told all
  · have none : ([] : List News).map News.event = ([] : List Report).map .reconciled := rfl
    exact ends none rfl

end Attended

namespace Service

variable {shutdown capacity start : Nat} {s' : Attended} {opening closing : List News} {rounds : Rounds}
  {result : Except Failure Unit} {service : Service}

theorem follows_of_serves {s : Attended} {due : Nat}
    (serves : Schedule.Serves Attended.now Attended.idle (service.Cycles shutdown capacity)
      service.interval shutdown due s rounds s') :
    Attended.Follows capacity s (rounds.flatMap (·.noted.1)) s' := by
  induction serves with
  | closed => exact Attended.follows_idle _ _
  | round early one rest ih =>
    exact (Attended.follows_idle _ _).trans ((Attended.Runs.follows one).trans ih)

/-- What is told of a whole run, and to whom. It begins with the news of the start and ends with that of
the stop, after reports about all that is managed if that is to be removed; between these stand the
cycles, each told from its beginning to its end; and of all this the receiver gets, in its order, what
was told while less waited than there is room for. -/
structure TellsAll (service : Service) (shutdown capacity : Nat) (opening : List News)
    (rounds : Rounds) (closing : List News) (s' : Attended) : Prop where
  opens : opening.map News.event =
    [.started service.settings.domainCount service.settings.lists.length]
  cycles : ∀ r ∈ rounds, ∃ detections, service.TellsCycle shutdown r.finish.now r.noted.2 detections
    (r.noted.1.map News.event)
  closes : ∃ reports : List Report,
    closing.map News.event = reports.map .reconciled ++ [.stopped "Shutdown signal"] ∧
    reports.map Report.subject =
      if service.settings.timing.deleteOnStop then service.managed.map Managed.subject else []
  received : s'.fetched ++ s'.waiting =
    ((opening ++ rounds.flatMap (·.noted.1) ++ closing).filter (·.waiting < capacity)).map News.event
  room : ∀ news ∈ opening ++ rounds.flatMap (·.noted.1) ++ closing, news.waiting ≤ capacity

theorem Served.tellsAll
    (served : service.Served shutdown capacity (.fresh start) opening rounds closing result s') :
    service.TellsAll shutdown capacity opening rounds closing s' := by
  obtain ⟨s₁, s₂, opens, serves, closes⟩ := served
  obtain ⟨⟨n, told⟩, -, free⟩ := ensures_announce service _ _ _ _ opens
  obtain ⟨-, arriving, room⟩ :=
    ((Attended.Runs.follows opens).trans (follows_of_serves serves)).trans
      (Attended.Runs.follows closes)
  have kept (s : Attended) (noted : List News × List Report) (s' : Attended) (free : s.limited = false)
      (one : service.Cycles shutdown capacity s noted s') : s'.limited = false :=
    (Attended.ensures_cycle free _ _ _ one).1
  have free := serves.keeps (fun _ _ free => free) kept free
  exact {
    opens := by rw [told]; rfl
    cycles r mem := (Attended.ensures_cycle (free r mem) _ _ _ (serves.cycles r mem)).2
    closes := Attended.ensures_conclude s₂ _ _ _ closes
    received := arriving
    room := (room (Nat.zero_le _)).2 }

/-- The news of every whole run, however calls, detection and the receiver take their time; and of the
run that the service computes in a simulated world, where nothing waits and no deadline is set. -/
theorem served_news (service : Service) :
    (∀ shutdown capacity start opening rounds closing result s',
      service.Served shutdown capacity (.fresh start) opening rounds closing result s' →
        service.TellsAll shutdown capacity opening rounds closing s') ∧
    (0 < service.interval → ∀ shutdown agenda (w : World), w.attended = .fresh w.now →
      ∃ opening rounds closing,
        service.Served (w.now + shutdown) w.capacity w.attended opening rounds closing
          (w.serve service shutdown agenda).1 (w.serve service shutdown agenda).2.attended ∧
        service.TellsAll (w.now + shutdown) w.capacity opening rounds closing
          (w.serve service shutdown agenda).2.attended) := by
  refine ⟨fun _ _ _ _ _ _ _ _ served => served.tellsAll,
    fun positive shutdown agenda w fresh => ?_⟩
  obtain ⟨opening, rounds, closing, served⟩ := served_serve positive shutdown agenda w
  refine ⟨opening, rounds, closing, served, ?_⟩
  rw [fresh] at served
  exact served.tellsAll

def tidy : Service := { keeper with settings.timing.deleteOnStop := true }

def cramped : World := { sluggish with capacity := 3 }

theorem served_news_tidy : tidy.settings.validate = .ok () ∧ 0 < tidy.interval ∧
    cramped.attended = .fresh 0 ∧
    ∃ opening rounds closing,
      tidy.Served 400000 3 (.fresh 0) opening rounds closing (cramped.serve tidy 400000 []).1
        (cramped.serve tidy 400000 []).2.attended ∧
      opening.map News.event = [.started 1 0] ∧
      (∀ r ∈ rounds, ∃ detections updated failed, r.noted.1.map News.event =
        .cycleStarted :: (detections ++ r.noted.2.map .reconciled ++ [.cycleFinished updated failed]) ∧
        updated = (r.noted.1.map News.event).countP (Event.endedIn .updated) ∧
        failed = (r.noted.1.map News.event).countP (Event.endedIn .failed)) ∧
      (∃ reports : List Report,
        closing.map News.event = reports.map .reconciled ++ [.stopped "Shutdown signal"] ∧
          reports.map Report.subject = [.records "www.example.com" .v4]) ∧
      (cramped.serve tidy 400000 []).2.events =
        ((opening ++ rounds.flatMap (·.noted.1) ++ closing).filter (·.waiting < 3)).map News.event := by
  have positive : 0 < tidy.interval := by decide
  obtain ⟨every, simulated⟩ := served_news tidy
  obtain ⟨opening, rounds, closing, served, -⟩ := simulated positive 400000 [] cramped rfl
  have told := every 400000 3 0 _ _ _ _ _ served
  have arrived := told.received
  rw [World.told_attended] at arrived
  refine ⟨by rfl, positive, rfl, opening, rounds, closing, served, told.opens, fun r mem => ?_,
    told.closes, arrived⟩
  obtain ⟨detections, ⟨updated, failed, numbers⟩, -⟩ := told.cycles r mem
  exact ⟨detections, updated, failed, numbers⟩

end Service

end AddressSync
