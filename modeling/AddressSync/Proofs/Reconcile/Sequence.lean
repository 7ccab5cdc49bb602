import AddressSync.Proofs.Reconcile.Choice

/-! Bringing records to a target is a sequence of changes of one place, with requests to stop heeded
between them. What relates the scenes before and after each change relates those before and after the
whole, if it can be put in sequence. -/

namespace AddressSync

open Sync Simulation Directory Scene

/-- A relation between scenes, by what is noted on the way, that can be put in sequence. Asking
whether to stop is no step. -/
structure Scene.Sequential (R : Scene → List Moment → Scene → Prop) : Prop where
  nil : ∀ s, R s [] s
  asked : ∀ s answer, R s [.stopAsked answer] s
  append : ∀ {s es s' es' s''}, R s es s' → R s' es' s'' → R s (es ++ es') s''

namespace Reconcile

abbrev Target.key (t : Target) : RecordsKey := ⟨t.zone, t.domain, t.family⟩

variable {R : Scene → List Moment → Scene → Prop} (sequential : Sequential R) (t : Target)
  (changed : ∀ (c : Call) (change : c.Reply → List Record → List Record) s es reply s',
    s.Change c (fun x => patchRecords t.key (change x)) (dropRecords t.key) es reply s' → R s es s')

include sequential changed

theorem ensures_keepOne_related (records : List Record) (s : Scene) :
    Sync.Ensures (keepOne t records) s fun es _ s' => R s es s' := by
  unfold keepOne
  split
  · exact Program.ensures_pure_iff.mpr (sequential.nil s)
  · refine (silent_remarkAttributes _ _ _ _).ensures_bind ?_
    refine (ensures_change s).bind fun es reply s' change => ?_
    cases reply with
    | ok x | error e =>
      refine ensures_log_iff.mpr (Program.ensures_pure_iff.mpr ?_)
      rw [List.append_nil]
      exact changed _ _ _ _ _ _ change
  · exact Program.ensures_pure_iff.mpr (sequential.nil s)

omit sequential in
theorem ensures_createOne_related (s : Scene) :
    Sync.Ensures (createOne t) s fun es _ s' => R s es s' := by
  refine (ensures_change s).bind fun es reply s' change => ?_
  cases reply with
  | ok record | error e =>
    refine ensures_log_iff.mpr (Program.ensures_pure_iff.mpr ?_)
    rw [List.append_nil]
    exact changed _ _ _ _ _ _ change

theorem ensures_settle_related (records : List Record) (s : Scene) :
    Sync.Ensures (settle t records) s fun es _ s' => R s es s' := by
  refine (ensures_keepOne_related sequential t changed records s).bind ?_
  rintro es ⟨kept?, progress⟩ s' kept
  cases kept? with
  | some id =>
    refine Program.ensures_pure_iff.mpr ?_
    rwa [List.append_nil]
  | none =>
    refine (ensures_createOne_related t changed s').bind fun es' created s'' made => ?_
    refine Program.ensures_pure_iff.mpr ?_
    rw [List.append_nil]
    exact sequential.append kept made

theorem ensures_removeRest_related (progress : Progress) (rest : List Record) (s : Scene) :
    Sync.Ensures (removeRest t progress rest) s fun es _ s' => R s es s' := by
  induction rest generalizing progress s with
  | nil => exact Program.ensures_pure_iff.mpr (sequential.nil s)
  | cons record rest ih =>
    refine ensures_stopRequested_iff.mpr fun stop => ?_
    have asked := sequential.asked s stop
    cases stop with
    | true => exact ensures_log_iff.mpr (Program.ensures_pure_iff.mpr asked)
    | false =>
      refine (ensures_change s).bind fun es reply s' change => ?_
      have removed := changed _ _ _ _ _ _ change
      cases reply with
      | ok x | error e =>
        refine ensures_log_iff.mpr ((ih _ s').mono fun es' result s'' others => ?_)
        exact sequential.append asked (sequential.append removed others)

theorem ensures_converge_related (records : List Record) (s : Scene) :
    Sync.Ensures (converge t records) s fun es _ s' => R s es s' := by
  refine (ensures_settle_related sequential t changed records s).bind ?_
  rintro es ⟨kept?, progress⟩ s' settled
  cases kept? with
  | none =>
    refine Program.ensures_pure_iff.mpr ?_
    rwa [List.append_nil]
  | some id =>
    refine (ensures_removeRest_related sequential t changed progress _ s').bind
      fun es' result s'' removed => ?_
    refine Silent.ensures_guard (silent_log _ _ _) (Program.ensures_pure_iff.mpr ?_)
    rw [List.append_nil]
    exact sequential.append settled removed

end Reconcile

end AddressSync
