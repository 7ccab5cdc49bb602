import AddressSync.Proofs.Reconcile.Withdrawal
import AddressSync.Reconcile.Lists

/-! Retiring a list. Unless that failed, the account has no list of the name any more, or the
provider accepted that the list be emptied. -/

namespace AddressSync

open Sync Simulation Directory Scene

namespace Directory

variable {s : Scene} {target : ListTarget}

theorem removes_of_sameRecords {s' : Scene} {es : List Moment} {subject : Subject} (h : s.ZonesCoherent)
    (later : s.now ≤ s'.now) (shrinks : s.provider.Shrinks s'.provider)
    (records : s'.provider.records = s.provider.records)
    (caches : s'.caches.zones = s.caches.zones ∧ s'.caches.owners = s.caches.owners)
    (untold : Untold es) : s.Removes subject es s' where
  coherent := h.frame later shrinks.zones caches
  shrinks := shrinks
  elsewhere domain family _ := Provider.listing_congr shrinks.zones records domain family
  untold := untold

theorem ensures_deleteList_removes (h : s.ZonesCoherent) (target : ListTarget) (id : String) :
    Sync.Ensures (deleteList target id) s fun es reply s' =>
      s.Removes (.list target.print) es s' ∧
        s.provider.Ends (.deleteList target.account id) reply s'.provider := by
  refine ensures_call_iff.mpr fun t reply p later ends => ?_
  have shrinks : s.provider.Shrinks p :=
    ends.preserves (Provider.Shrinks.refl _) Provider.shrinks_deleteList
  have records : p.records = s.provider.records := by
    rcases ends.either with rfl | rfl <;> rfl
  cases reply with
  | ok x =>
    refine ensures_revise_iff.mpr fun t₁ later₁ => ensures_revise_iff.mpr fun t₂ later₂ => ?_
    refine Program.ensures_pure_iff.mpr ⟨?_, ends⟩
    have after := Nat.le_trans later (Nat.le_trans later₁ later₂)
    exact removes_of_sameRecords h after shrinks records ⟨rfl, rfl⟩ (by simp)
  | error e =>
    refine ensures_revise_iff.mpr fun t₁ later₁ => ensures_revise_iff.mpr fun t₂ later₂ => ?_
    refine Program.ensures_pure_iff.mpr ⟨?_, ends⟩
    have after := Nat.le_trans later (Nat.le_trans later₁ later₂)
    exact removes_of_sameRecords h after shrinks records ⟨rfl, rfl⟩ (by simp)

theorem ensures_replaceItems_removes (h : s.ZonesCoherent) (target : ListTarget) (id : String)
    (blocks : List Block) :
    Sync.Ensures (replaceItems target id blocks) s fun es reply s' =>
      s.Removes (.list target.print) es s' ∧
        es = [.called (.replaceItems target.account id blocks) reply s.provider s'.provider] := by
  refine ensures_call_iff.mpr fun t reply p later ends => ?_
  refine ensures_revise_iff.mpr fun t' later' => Program.ensures_pure_iff.mpr ⟨?_, rfl⟩
  have shrinks : s.provider.Shrinks p :=
    ends.preserves (Provider.Shrinks.refl _) Provider.shrinks_replaceItems
  have records : p.records = s.provider.records := by
    rcases ends.either with rfl | rfl
    · rfl
    · exact Provider.changesItems_replace.records
  have after := Nat.le_trans later later'
  exact removes_of_sameRecords h after shrinks records ⟨rfl, rfl⟩ (by simp)

end Directory

namespace Reconcile

variable {s : Scene} {target : ListTarget} {es es' : List Moment}

def Emptied (target : ListTarget) (es : List Moment) : Prop :=
  ∃ l before after, before.Names target l ∧
    .called (.replaceItems target.account l.id []) (.ok ()) before after ∈ es

theorem ensures_retire (h : s.ZonesCoherent)
    (distinct : ListIndex.NamesDistinct (s.provider.listsOf target.account)) :
    Sync.Ensures (retire target) s fun es report s' =>
      s.Removes (.list target.print) es s' ∧ report.subject = .list target.print ∧
        (report.outcome ≠ .failed → s'.provider.HasList target → Emptied target es) := by
  refine ensures_stopRequested_iff.mpr fun stop => ?_
  have asked (stop : Bool) : s.Removes (.list target.print) [.stopAsked stop] s :=
    (quiet_stopAsked stop).removes h
  cases stop with
  | true => exact Program.ensures_pure_iff.mpr ⟨asked true, rfl, fun done => absurd rfl done⟩
  | false =>
    refine ensures_revise_iff.mpr fun t later => ?_
    have forgotten : ZonesCoherent ⟨t, s.provider, { s.caches with
        indexes := s.caches.indexes.erase target.account }⟩ := h.frame later rfl ⟨rfl, rfl⟩
    have unread : IndexTrue target.account ⟨t, s.provider, { s.caches with
        indexes := s.caches.indexes.erase target.account }⟩ :=
      fun _ _ _ found => absurd found (by simp [Cache.get?_erase])
    refine (ensures_findsList unread).bind fun es reply s' found => ?_
    obtain ⟨quiet, _, live, _, kept, _⟩ := found
    have coherent := kept.coherent quiet.provider forgotten
    have provider : s'.provider = s.provider := quiet.provider
    have looked : s.Removes (.list target.print) (.stopAsked false :: es) s' := by
      refine (asked false).trans (Quiet.removes ?_ coherent)
      exact ⟨Nat.le_trans later quiet.later, quiet.provider, quiet.moments, quiet.untold⟩
    cases reply with
    | error e =>
      refine ensures_log_iff.mpr (Program.ensures_pure_iff.mpr ⟨?_, rfl, fun done => absurd rfl done⟩)
      rwa [List.append_nil]
    | ok found =>
      have said := live found rfl
      rw [← provider] at said distinct
      cases found with
      | none =>
        refine ensures_log_iff.mpr (Program.ensures_pure_iff.mpr ⟨?_, rfl, fun _ has => ?_⟩)
        · rwa [List.append_nil]
        · exact absurd has (Provider.not_hasList_of_find? distinct said.symm)
      | some l =>
        have names := Provider.names_of_find? said.symm
        have without := names.not_hasList_deleteList distinct
        refine (ensures_deleteList_removes coherent target l.id).bind fun es' reply s₁ deleted => ?_
        obtain ⟨deletion, ends⟩ := deleted
        cases reply with
        | ok x =>
          refine ensures_log_iff.mpr (Program.ensures_pure_iff.mpr ⟨?_, rfl, fun _ has => ?_⟩)
          · rw [List.append_nil]
            exact looked.trans deletion
          · rw [ends.of_ok.2] at has
            exact absurd has without
        | error e =>
          have replace := ensures_replaceItems_removes deletion.coherent target l.id []
          refine ensures_log_iff.mpr (replace.bind fun es'' reply s₂ replaced => ?_)
          obtain ⟨replacement, moments⟩ := replaced
          cases reply with
          | error e =>
            refine ensures_log_iff.mpr (Program.ensures_pure_iff.mpr
              ⟨?_, rfl, fun done => absurd rfl done⟩)
            rw [List.append_nil]
            exact looked.trans (deletion.trans replacement)
          | ok x =>
            refine ensures_log_iff.mpr (Program.ensures_pure_iff.mpr ⟨?_, rfl, fun _ has => ?_⟩)
            · rw [List.append_nil]
              exact looked.trans (deletion.trans replacement)
            · -- a deletion that was done in spite of its failure left no list to be emptied
              rcases ends.either with kept | gone
              · refine ⟨l, s₁.provider, s₂.provider, ?_, ?_⟩
                · rwa [kept]
                · rw [moments]
                  simp
              · have had := replacement.shrinks.hasList has
                rw [gone] at had
                exact absurd had without

end Reconcile

end AddressSync
