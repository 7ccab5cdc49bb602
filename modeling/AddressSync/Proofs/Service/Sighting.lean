import AddressSync.Proofs.Surroundings.Scene
import AddressSync.Service.Cycle

/-! What a cycle takes to be the addresses: of each family that it asks for, what the source said last,
if that can be published. -/

namespace AddressSync

open Sync Simulation Reconcile

structure Family.Publishable (family : Family) (address : Address) : Prop where
  ofFamily : address.family = family
  not_unspecified : address.isUnspecified = false
  not_loopback : address.isLoopback = false
  not_multicast : address.isMulticast = false
  not_mapped : address.isMapped = false

theorem Family.accept_eq_ok_iff {family : Family} {address accepted : Address} :
    family.accept address = .ok accepted ↔ accepted = address ∧ family.Publishable address := by
  unfold Family.accept
  constructor
  · intro ok
    split at ok
    · cases ok
    · next same =>
      split at ok
      · cases ok
      · next usual =>
        split at ok
        · cases ok
        · next plain =>
          cases ok
          simp only [Bool.or_eq_true, not_or, Bool.not_eq_true] at usual plain
          exact ⟨rfl, Decidable.not_not.mp same, usual.1.1, usual.1.2, usual.2, plain⟩
  · rintro ⟨rfl, same, unspecified, loopback, multicast, mapped⟩
    simp [same, unspecified, loopback, multicast, mapped]

def Family.sighting (family : Family) : Option (Except Failure Address) → Sighting
  | some (.ok address) =>
    match family.accept address with
    | .ok address => .seen address
    | .error _ => .unknown
  | some (.error _) | none => .unknown

def Moment.answer? (family : Family) : Moment → Option (Option (Except Failure Address))
  | .detected family' answer => if family' = family then some answer else none
  | _ => none

def answers (family : Family) (es : List Moment) : List (Option (Except Failure Address)) :=
  es.filterMap (Moment.answer? family)

/-- The source's last word about the family was an address that may be published. -/
def Detects (es : List Moment) (family : Family) (address : Address) : Prop :=
  (answers family es).getLast? = some (some (.ok address)) ∧ family.Publishable address

variable {es es' : List Moment} {family : Family} {address : Address}
  {answer : Option (Except Failure Address)} {sightings : Sightings}

theorem Family.sighting_eq_seen_iff : family.sighting answer = .seen address ↔
    answer = some (.ok address) ∧ family.Publishable address := by
  unfold Family.sighting
  split
  · next given =>
    split
    · next accepted =>
      obtain ⟨rfl, publishable⟩ := Family.accept_eq_ok_iff.mp accepted
      constructor
      · intro same
        cases same
        exact ⟨rfl, publishable⟩
      · rintro ⟨same, _⟩
        cases same
        rfl
    · next rejected =>
      refine ⟨fun same => (nomatch same), fun ⟨same, publishable⟩ => ?_⟩
      cases same
      rw [Family.accept_eq_ok_iff.mpr ⟨rfl, publishable⟩] at rejected
      cases rejected
  all_goals exact ⟨fun same => (nomatch same), fun ⟨same, _⟩ => (nomatch same)⟩

theorem Family.sighting_cases (family : Family) (answer : Option (Except Failure Address)) :
    family.sighting answer = .unknown ∨ ∃ address, family.sighting answer = .seen address := by
  unfold Family.sighting
  split
  · split
    · exact .inr ⟨_, rfl⟩
    · exact .inl rfl
  · exact .inl rfl
  · exact .inl rfl

theorem answers_append : answers family (es ++ es') = answers family es ++ answers family es' :=
  List.filterMap_append

theorem answers_single {family' : Family} {event : Event} {p : Provider} :
    answers family' [.detected family answer, .told event p] =
      if family = family' then [answer] else [] := by
  by_cases same : family = family' <;> simp [answers, Moment.answer?, same]

theorem answers_eq_nil (none : ∀ m ∈ es, m.answer? family = none) : answers family es = [] :=
  List.filterMap_eq_nil_iff.mpr none

namespace Service

variable {s s' s'' : Scene} {families : List Family} {after last : Sightings} {service : Service}

/-- What is known once the families were asked for: where a family is among them, what its last
answer says, and otherwise what was known before. -/
structure Sighted (sightings : Sightings) (families : List Family) (s : Scene) (es : List Moment)
    (after : Sightings) (s' : Scene) : Prop where
  later : s.now ≤ s'.now
  scene : s' = { s with now := s'.now }
  moments : ∀ m ∈ es, (∃ family answer, m = .detected family answer) ∨
    ∃ event, m = .told event s.provider
  asked : ∀ family, answers family es ≠ [] ↔ family ∈ families
  known : ∀ family, after.of family =
    (answers family es).getLast?.elim (sightings.of family) family.sighting

theorem sighted_nil (sightings : Sightings) (s : Scene) : Sighted sightings [] s [] sightings s where
  later := Nat.le_refl _
  scene := rfl
  moments _ mem := absurd mem List.not_mem_nil
  asked _ := by simp [answers]
  known _ := rfl

theorem Sighted.append {families' : List Family} (first : Sighted sightings families s es after s')
    (rest : Sighted after families' s' es' last s'') :
    Sighted sightings (families ++ families') s (es ++ es') last s'' where
  later := Nat.le_trans first.later rest.later
  scene := by
    rw [rest.scene, first.scene]
  moments := by
    have same : s'.provider = s.provider := by rw [first.scene]
    refine List.forall_mem_append.mpr ⟨first.moments, ?_⟩
    rw [← same]
    exact rest.moments
  asked family := by
    rw [answers_append, List.mem_append, ← first.asked, ← rest.asked, ne_eq,
      List.append_eq_nil_iff, Classical.not_and_iff_not_or_not]
  known family := by
    rw [rest.known, first.known, answers_append, List.getLast?_append]
    cases (answers family es').getLast? <;> rfl

theorem Sighted.detects (sighted : Sighted {} families s es after s')
    (seen : after.of family = .seen address) : Detects es family address := by
  have known := sighted.known family
  cases last : (answers family es).getLast? with
  | none =>
    rw [last, seen] at known
    cases family <;> cases known
  | some answer =>
    rw [last, seen] at known
    obtain ⟨rfl, publishable⟩ := Family.sighting_eq_seen_iff.mp known.symm
    exact ⟨last, publishable⟩

theorem Sighted.unknown (sighted : Sighted {} families s es after s') (mem : family ∈ families)
    (missed : ∀ address, ¬ Detects es family address) : after.of family = .unknown := by
  have known := sighted.known family
  cases last : (answers family es).getLast? with
  | none => exact absurd (List.getLast?_eq_none_iff.mp last) ((sighted.asked family).mpr mem)
  | some answer =>
    rw [last] at known
    rcases family.sighting_cases answer with unknown | ⟨address, seen⟩
    · exact known.trans unknown
    · exact absurd (sighted.detects (known.trans seen)) (missed address)

theorem of_set (sightings : Sightings) (family family' : Family) (sighting : Sighting) :
    (sightings.set family sighting).of family' =
      if family' = family then sighting else sightings.of family' := by
  cases family <;> cases family' <;> rfl

theorem sighted_single {t : Nat} (later : s.now ≤ t) (event : Event) :
    Sighted sightings [family] s [.detected family answer, .told event s.provider]
      (sightings.set family (family.sighting answer)) { s with now := t } where
  later := later
  scene := rfl
  moments := by simp
  asked family' := by
    rw [answers_single]
    by_cases same : family = family'
    · simp [same]
    · simp [same, Ne.symm same]
  known family' := by
    rw [of_set, answers_single]
    by_cases same : family = family'
    · simp [same]
    · simp [same, Ne.symm same]

def found : Except Failure Address → Sighting
  | .ok address => .seen address
  | .error _ => .unknown

theorem ensures_detectOne (family : Family) (s : Scene) :
    Sync.Ensures (service.detectOne family) s fun es result s' => ∃ answer,
      es = [.detected family answer] ∧ s.now ≤ s'.now ∧ s' = { s with now := s'.now } ∧
        found result = family.sighting answer := by
  refine Program.ensures_perform_bind_iff.mpr ?_
  rintro answer es s' ⟨later, same, rfl⟩
  have done (result : Except Failure Address) (known : found result = family.sighting answer) :
      Sync.Ensures (pure result) s' fun es' result s'' => ∃ answer',
        [.detected family answer] ++ es' = [.detected family answer'] ∧ s.now ≤ s''.now ∧
          s'' = { s with now := s''.now } ∧ found result = family.sighting answer' :=
    Program.ensures_pure_iff.mpr ⟨answer, rfl, later, same, known⟩
  split
  · exact done _ rfl
  · exact done _ rfl
  · next address =>
    split
    · next accepted ok =>
      refine done _ ?_
      rw [Family.sighting, ok, found]
    · next refused error =>
      refine done _ ?_
      rw [Family.sighting, error, found]

theorem ensures_detectAll (sightings : Sightings) (families : List Family) (s : Scene) :
    Sync.Ensures (service.detectAll sightings families) s fun es after s' =>
      Sighted sightings families s es after s' := by
  induction families generalizing sightings s with
  | nil => exact Program.ensures_pure_iff.mpr (sighted_nil sightings s)
  | cons family families ih =>
    refine (ensures_detectOne family s).bind ?_
    rintro es result s' ⟨answer, rfl, later, same, known⟩
    have next (event : Event) : Sync.Ensures
        (service.detectAll (sightings.set family (found result)) families) s' fun es' after s'' =>
          Sighted sightings (family :: families) s
            ([.detected family answer] ++ (.told event s'.provider :: es')) after s'' := by
      refine (ih _ s').mono fun es' after s'' rest => ?_
      rw [same, known] at rest
      rw [same]
      exact (sighted_single later event).append rest
    cases result with
    | ok address => exact ensures_log_iff.mpr (ensures_emit_iff.mpr (next _))
    | error e => exact ensures_log_iff.mpr (ensures_emit_iff.mpr (next _))

end Service

end AddressSync
