import AddressSync.Proofs.Reconcile.Tidiness
import AddressSync.Proofs.Service.Requests
import AddressSync.Proofs.Service.Rounds
import AddressSync.Proofs.Settings.Validation
import AddressSync.Proofs.Surroundings.Booked

/-! What a clock can tell and a channel can hold has limits, and the service adds times of any size to
the time of day. A configuration without a flaw keeps its sums off zero, but not below the limits. -/

namespace AddressSync

open Sync Reconcile

def lastSecond : Nat := 0x7FFFFFFFFFFFFFFF

def Fits (instant : Nat) : Prop := instant / 1000 ≤ lastSecond

instance (instant : Nat) : Decidable (Fits instant) :=
  inferInstanceAs (Decidable (instant / 1000 ≤ lastSecond))

/-- The most events that a channel can have room for. -/
def mostRoom : Nat := 0xFFFFFFFFFFFFFFFF / 8

def century : Nat := 36525 * 24 * 60 * 60 * 1000

theorem Fits.mono {t t' : Nat} (fits : Fits t') (sooner : t ≤ t') : Fits t :=
  Nat.le_trans (Nat.div_le_div_right sooner) fits

/-- With these settings the channel can be made, and what is reckoned within a century can be told. -/
structure Settings.Bearable (s : Settings) : Prop where
  room : s.timing.eventCapacity.toNat ≤ mostRoom
  expiry : Fits (century + 1000 * s.cacheLifetime.toNat)
  firstDue : s.timing.updateOnStart = false → Fits (century + 1000 * s.timing.interval.toNat)

namespace Service

variable {service : Service} {settings : Settings} {provider source : String}

def lifetime (service : Service) : Nat := 1000 * service.settings.cacheLifetime.toNat

section Lives

inductive Chore (service : Service) : {α : Type} → Sync α → Prop
  | announce : Chore service service.announce
  | cycle : Chore service service.cycle
  | cleanUp : Chore service service.cleanUp
  | conclude : Chore service service.conclude

theorem attends_stamps (service : Service) : service.Attends Stamps :=
  ⟨usual_stamps, fun _ => trivial, trivial, trivial⟩

theorem Chore.stamps {α : Type} {p : Sync α} (chore : service.Chore p) : OnlyAsks Stamps p := by
  have attends := attends_stamps service
  have usual := usual_stamps
  have cleans : OnlyAsks Stamps service.cleanUp :=
    onlyAsks_cleanUp attends
      (fun _ _ => onlyAsks_withdraw usual trivial (fun _ _ => trivial) true)
      (onlyAsks_retire usual trivial fun _ _ => trivial)
  cases chore with
  | announce => exact onlyAsks_announce attends
  | cycle =>
    rw [cycle_eq]
    refine (onlyAsks_detection (fun _ => trivial) (fun _ => trivial) (fun _ _ => trivial)
      service).bind fun _ => ?_
    exact onlyAsks_afterDetection attends
      (fun _ _ _ => onlyAsks_publish usual trivial fun _ _ => trivial)
      (onlyAsks_populate usual trivial fun _ _ => trivial)
  | cleanUp => exact cleans
  | conclude => exact onlyAsks_conclude attends cleans

/-- A life of the service, with all that its caches come to hold: it does one chore after the other,
and time passes in between. -/
inductive Lives (service : Service) : Watch → List Watch → Watch → Prop
  | finished (s : Watch) : Lives service s [] s
  | wait {s s' : Watch} {t : Nat} {es : List Watch} (later : s.now ≤ t)
      (rest : Lives service { s with now := t } es s') : Lives service s es s'
  | work {α : Type} {p : Sync α} {a : α} {s s₁ s' : Watch} {es es' : List Watch}
      (chore : service.Chore p) (run : Watch.Books p s es a s₁) (rest : Lives service s₁ es' s') :
      Lives service s (es ++ es') s'

variable {s s' : Watch} {es : List Watch} {start lifetime : Nat}

theorem Lives.dated (lives : service.Lives s es s') (h : s.Dated start lifetime) :
    ∀ b ∈ es, b.Dated start lifetime := by
  induction lives with
  | finished => exact List.forall_mem_nil _
  | wait later _ ih => exact ih (h.later later)
  | work chore run _ ih =>
    obtain ⟨middle, first⟩ := h.books chore.stamps run
    exact List.forall_mem_append.mpr ⟨first, ih middle⟩

end Lives

theorem make_eq_ok_iff : make settings provider source = .ok service ↔
    settings.validate = .ok () ∧ service = ⟨settings, provider, source⟩ := by
  unfold make
  cases settings.validate with
  | error flaw => exact ⟨nofun, fun h => nomatch h.1⟩
  | ok => exact ⟨fun done => ⟨rfl, (Except.ok.inj done).symm⟩, fun h => congrArg Except.ok h.2.symm⟩

def resized (s : Settings) (room interval cacheLifetime : UInt64) : Settings :=
  { s with cacheLifetime, timing := { s.timing with eventCapacity := room, interval } }

theorem validate_resized {room interval : UInt64} (valid : settings.validate = .ok ())
    (some : room ≠ 0) (positive : interval ≠ 0) (cacheLifetime : UInt64) :
    (resized settings room interval cacheLifetime).validate = .ok () := by
  obtain ⟨access, managed, detected, ttl, lists, timing⟩ := Settings.validate_eq_ok_iff.mp valid
  obtain ⟨-, detection, update, -⟩ := Timing.validate_eq_ok_iff.mp timing
  exact Settings.validate_eq_ok_iff.mpr ⟨access, managed, detected, ttl, lists,
    Timing.validate_eq_ok_iff.mpr ⟨positive, detection, update, some⟩⟩

theorem bearable_iff (service : Service) : service.settings.Bearable ↔
    service.settings.timing.eventCapacity.toNat ≤ mostRoom ∧
      ∀ now ≤ century, Fits (service.firstDue now) ∧ Fits (now + service.lifetime) := by
  constructor
  · rintro ⟨room, expiry, firstDue⟩
    refine ⟨room, fun now early => ⟨?_, expiry.mono (Nat.add_le_add_right early _)⟩⟩
    unfold Service.firstDue
    split
    · exact expiry.mono (Nat.le_trans early (Nat.le_add_right ..))
    · next idle => exact (firstDue (by simpa using idle)).mono (Nat.add_le_add_right early _)
  · rintro ⟨room, fits⟩
    obtain ⟨due, expiry⟩ := fits century (Nat.le_refl _)
    refine ⟨room, expiry, fun idle => ?_⟩
    rwa [Service.firstDue, if_neg (by simp [idle])] at due

/-- What the service reckons stays within the limits for a century exactly if its settings are bearable.
That they are without a flaw keeps the room and the interval off zero and no more: any others would
have been taken too. In a life of the service whatever is cached expires one lifetime after an instant
of that life, so that a lifetime too long for the clock goes wrong the first time that anything is
cached. -/
theorem limits_of_make (made : make settings provider source = .ok service) :
    (0 < settings.timing.eventCapacity.toNat ∧ 0 < service.interval) ∧
    (settings.Bearable ↔ settings.timing.eventCapacity.toNat ≤ mostRoom ∧
      ∀ now ≤ century, Fits (service.firstDue now) ∧ Fits (now + service.lifetime)) ∧
    (∀ start es s', service.Lives ⟨start, .empty service.lifetime⟩ es s' →
      ∀ b ∈ es, ∀ e ∈ b.caches.expiries,
        (∃ t, start ≤ t ∧ t ≤ b.now ∧ e = t + service.lifetime) ∧
        (settings.Bearable → b.now ≤ century → Fits e) ∧
        (lastSecond < settings.cacheLifetime.toNat → ¬Fits e)) ∧
    ∀ room interval cacheLifetime, room ≠ 0 → interval ≠ 0 → ∃ service',
      make (resized settings room interval cacheLifetime) provider source = .ok service' := by
  obtain ⟨valid, rfl⟩ := make_eq_ok_iff.mp made
  have timing := Timing.validate_eq_ok_iff.mp (Settings.validate_eq_ok_iff.mp valid).timing
  have positive {n : UInt64} (some : n ≠ 0) : 0 < n.toNat :=
    Nat.pos_of_ne_zero fun none => some (UInt64.toNat_inj.mp none)
  have bearable := bearable_iff ⟨settings, provider, source⟩
  refine ⟨⟨positive timing.2.2.2, Nat.mul_pos (by decide) (positive timing.1)⟩, bearable, ?_, ?_⟩
  · intro start es s' lives b mem e stored
    have dated := lives.dated (Watch.dated_empty _ _) b mem
    obtain ⟨t, after, before, rfl⟩ := dated.expiries e stored
    refine ⟨⟨t, after, before, rfl⟩, fun small early => ?_, fun long fits => ?_⟩
    · exact ((bearable.mp small).2 t (Nat.le_trans before early)).2
    · unfold Fits lifetime at fits
      dsimp only at fits
      omega
  · intro room interval cacheLifetime some positive
    exact ⟨_, make_eq_ok_iff.mpr ⟨validate_resized valid some positive cacheLifetime, rfl⟩⟩

def outsize : Settings :=
  resized { keeper.settings with timing := { keeper.settings.timing with updateOnStart := false } }
    0xFFFFFFFFFFFFFFFF 0xFFFFFFFFFFFFFFFF 0xFFFFFFFFFFFFFFFF

theorem limits_of_make_outsize : ∃ service, make outsize "memory" "static" = .ok service ∧
    mostRoom < outsize.timing.eventCapacity.toNat ∧ ¬Fits (service.firstDue 0) ∧
    ¬outsize.Bearable ∧
    ∃ es s', service.Lives ⟨0, .empty service.lifetime⟩ es s' ∧
      ∃ b ∈ es, ∃ e ∈ b.caches.expiries, ¬Fits e := by
  have valid : outsize.validate = .ok () :=
    validate_resized (by rfl) (by decide) (by decide) 0xFFFFFFFFFFFFFFFF
  have made : make outsize "memory" "static" = .ok ⟨outsize, "memory", "static"⟩ :=
    make_eq_ok_iff.mpr ⟨valid, rfl⟩
  have crowded : mostRoom < outsize.timing.eventCapacity.toNat := by decide +kernel
  obtain ⟨-, bearable, lives, -⟩ := limits_of_make made
  let w : Simulation.World :=
    { sluggish with caches := .empty (Service.lifetime ⟨outsize, "memory", "static"⟩) }
  have run := Simulation.World.books_run (cycle ⟨outsize, "memory", "static"⟩) w
  have life := Lives.work .cycle run (.finished _)
  refine ⟨_, made, crowded, by decide +kernel,
    fun h => Nat.not_le_of_lt crowded (bearable.mp h).1, _, _, life, ?_⟩
  have cached : ((Program.trace Simulation.World.answer Simulation.World.booked
      (cycle ⟨outsize, "memory", "static"⟩) w ++ []).any
        fun b => !b.caches.expiries.isEmpty) = true := by decide +kernel
  obtain ⟨b, mem, some⟩ := List.any_eq_true.mp cached
  obtain ⟨e, stored⟩ := List.exists_mem_of_ne_nil b.caches.expiries (by simpa using some)
  exact ⟨b, mem, e, stored, (lives _ _ _ life b mem e stored).2.2 (by decide +kernel)⟩

end Service

end AddressSync
