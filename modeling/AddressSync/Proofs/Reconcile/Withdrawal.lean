import AddressSync.Proofs.Directory.Changes
import AddressSync.Proofs.Provider.Shrinking
import AddressSync.Proofs.Reconcile.Choice

/-! Withdrawing the records of a place. Work that counts as done left nothing behind exactly when it
came to its end: if it was stopped between two deletions, some record is still there. -/

namespace AddressSync

open Sync Simulation Directory

namespace Scene

variable {s s' s'' : Scene} {es es' : List Moment} {subject : Subject} {zone id : String}
  {domain : Domain} {family : Family}

structure Removes (subject : Subject) (s : Scene) (es : List Moment) (s' : Scene) : Prop where
  coherent : s'.ZonesCoherent
  shrinks : s.provider.Shrinks s'.provider
  elsewhere : ∀ domain family, subject ≠ .records domain.print family →
    s'.provider.listing domain family = s.provider.listing domain family
  untold : Untold es

theorem Quiet.removes (quiet : s.Quiet es s') (coherent : s'.ZonesCoherent) :
    s.Removes subject es s' := by
  refine ⟨coherent, ?_, fun domain family _ => ?_, quiet.untold⟩
  · rw [quiet.provider]
    exact .refl s.provider
  · rw [quiet.provider]

theorem Removes.trans (first : s.Removes subject es s') (rest : s'.Removes subject es' s'') :
    s.Removes subject (es ++ es') s'' where
  coherent := rest.coherent
  shrinks := first.shrinks.trans rest.shrinks
  elsewhere domain family other :=
    (rest.elsewhere domain family other).trans (first.elsewhere domain family other)
  untold := untold_append.mpr ⟨first.untold, rest.untold⟩

theorem Change.removes {change : List Record → List Record} {reply : Except Failure Unit}
    (h : s.ZonesCoherent) (within : s.provider.RecordWithin id zone domain.print family)
    (changed : s.Change (.deleteRecord zone id)
      (fun _ => patchRecords ⟨zone, domain, family⟩ change) (dropRecords ⟨zone, domain, family⟩)
      es reply s') : s.Removes (.records domain.print family) es s' := by
  obtain ⟨later, moments, ends, caches⟩ := changed
  have shrinks : s.provider.Shrinks s'.provider :=
    ends.preserves (Provider.Shrinks.refl _) Provider.shrinks_deleteRecord
  refine ⟨?_, shrinks, fun domain' family' other => ?_, ?_⟩
  · refine h.frame later ends.zones ?_
    rw [caches]
    cases reply <;> exact ⟨rfl, rfl⟩
  · rw [Provider.listing, Provider.listing, shrinks.ownerOf domain']
    split
    · next zone' _ =>
      rcases ends.either with same | same
      · rw [same]
      · rw [same]
        refine (Provider.changesRecords_delete within).elsewhere zone' domain'.print family' ?_
        intro same
        exact other (by rw [same.2.1, same.2.2])
    · rfl
  · rw [moments]
    simp

end Scene

namespace Reconcile

open Scene

variable {s s' : Scene} {es : List Moment} {zone : String} {domain : Domain} {family : Family}
  {failed last : Bool} {total gone : Nat} {record : Record} {rest : List Record} {p p' : Provider}

/-- What is known between two deletions. As long as no call failed, the records that are still to
be deleted are all that is left. -/
structure Remaining (zone : String) (domain : Domain) (family : Family) (failed : Bool)
    (rest : List Record) (p : Provider) : Prop where
  distinct : (rest.map Record.id).Nodup
  within : ∀ r ∈ rest, p.RecordWithin r.id zone domain.print family
  left : failed = false → p.recordsOf zone domain.print family = rest

theorem remaining_all (distinct : p.RecordsDistinct) :
    Remaining zone domain family failed (p.recordsOf zone domain.print family) p where
  distinct := Provider.recordsOf_nodup distinct
  within _ mem := distinct.recordWithin mem
  left _ := rfl

theorem Remaining.deleted (h : Remaining zone domain family failed (record :: rest) p)
    (shrinks : p.Shrinks p') (ends : p.Ends (.deleteRecord zone record.id) (.ok ()) p') :
    Remaining zone domain family failed rest p' where
  distinct := (List.nodup_cons.mp h.distinct).2
  within r mem := shrinks.recordWithin (h.within r (List.mem_cons_of_mem _ mem))
  left clean := by
    rw [ends.of_ok.2, Provider.recordsOf_deleteRecord, h.left clean]
    exact Provider.filter_cons_of_nodup h.distinct

theorem Remaining.refused (h : Remaining zone domain family failed (record :: rest) p)
    (shrinks : p.Shrinks p') : Remaining zone domain family true rest p' where
  distinct := (List.nodup_cons.mp h.distinct).2
  within r mem := shrinks.recordWithin (h.within r (List.mem_cons_of_mem _ mem))
  left clean := nomatch clean

theorem ensures_removeEach (h : s.ZonesCoherent)
    (remaining : Remaining zone domain family failed rest s.provider) :
    Sync.Ensures (removeEach zone domain family last total gone failed rest) s
      fun es result s' => s.Removes (.records domain.print family) es s' ∧
        (result.1 ≠ .failed →
          (s'.provider.recordsOf zone domain.print family = [] ↔ result.2 = false)) := by
  induction rest generalizing gone failed s with
  | nil =>
    refine Program.ensures_pure_iff.mpr ⟨(quiet_pass (Nat.le_refl _)).removes h, fun done => ?_⟩
    have clean : failed = false := by
      cases failed with
      | false => rfl
      | true => exact absurd rfl done
    rw [remaining.left clean]
    exact iff_of_true rfl rfl
  | cons record rest ih =>
    refine ensures_stopRequested_iff.mpr fun stop => ?_
    have asked (stop : Bool) : s.Removes (.records domain.print family) [.stopAsked stop] s :=
      (quiet_stopAsked stop).removes h
    cases stop with
    | true =>
      refine ensures_log_iff.mpr (Program.ensures_pure_iff.mpr ⟨asked true, fun done => ?_⟩)
      have clean : failed = false := by
        cases failed with
        | false => rfl
        | true => simp at done
      rw [remaining.left clean]
      exact iff_of_false (List.cons_ne_nil _ _) Bool.noConfusion
    | false =>
      have within := remaining.within record List.mem_cons_self
      refine (ensures_change s).bind fun es reply s' change => ?_
      have removes := change.removes h within
      have first := (asked false).trans removes
      cases reply with
      | ok x =>
        have after := remaining.deleted removes.shrinks change.ends
        refine ensures_log_iff.mpr ((ih removes.coherent after).mono ?_)
        intro es' result s'' ⟨more, result⟩
        exact ⟨first.trans more, result⟩
      | error e =>
        have after := remaining.refused removes.shrinks
        refine ensures_log_iff.mpr ((ih removes.coherent after).mono ?_)
        intro es' result s'' ⟨more, result⟩
        exact ⟨first.trans more, result⟩

theorem ensures_withdraw (h : s.ZonesCoherent) (distinct : s.provider.RecordsDistinct)
    (domain : Domain) (family : Family) :
    Sync.Ensures (withdraw domain family true) s fun es report s' =>
      s.Removes (.records domain.print family) es s' ∧
        report.subject = .records domain.print family ∧
          (report.outcome ≠ .failed → (∃ zone, s.provider.ownerOf domain = .ok zone) ∧
            (s'.provider.listing domain family = [] ↔ report.stopped = false)) := by
  refine ensures_stopRequested_iff.mpr fun stop => ?_
  have asked (stop : Bool) : s.Removes (.records domain.print family) [.stopAsked stop] s :=
    (quiet_stopAsked stop).removes h
  cases stop with
  | true => exact Program.ensures_pure_iff.mpr ⟨asked true, rfl, fun done => absurd rfl done⟩
  | false =>
    refine (ensures_locate (h.zonesTrue domain) family true (nomatch ·)).bind
      fun es found s' ⟨quiet, kept, live⟩ => ?_
    have coherent := kept.coherent quiet.provider h
    have read := (asked false).trans (quiet.removes coherent)
    cases found with
    | none =>
      refine Program.ensures_pure_iff.mpr ⟨?_, rfl, fun done => absurd rfl done⟩
      rwa [List.append_nil]
    | some found =>
      obtain ⟨zone, records⟩ := found
      obtain ⟨owned, rfl⟩ := owned_of_located live
      rw [← quiet.provider] at distinct owned ⊢
      have all : Remaining zone domain family false
          (s'.provider.recordsOf zone domain.print family) s'.provider := remaining_all distinct
      generalize held : s'.provider.recordsOf zone domain.print family = records at all
      cases records with
      | nil =>
        refine ensures_log_iff.mpr (Program.ensures_pure_iff.mpr
          ⟨?_, rfl, fun _ => ⟨⟨zone, owned⟩, ?_⟩⟩)
        · rwa [List.append_nil]
        · rw [Provider.listing_of_owner family owned, held]
          exact iff_of_true rfl rfl
      | cons record rest =>
        refine (ensures_removeEach coherent all).bind fun es' result s'' ⟨removes, exact⟩ => ?_
        refine Program.ensures_pure_iff.mpr ⟨?_, rfl, fun done => ⟨⟨zone, owned⟩, ?_⟩⟩
        · rw [List.append_nil]
          exact read.trans removes
        · rw [← removes.shrinks.ownerOf domain] at owned
          rw [Provider.listing_of_owner family owned]
          exact exact done

end Reconcile

end AddressSync
