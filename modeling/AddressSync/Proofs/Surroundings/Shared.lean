import AddressSync.Proofs.Program.Turns
import AddressSync.Proofs.Surroundings.Scene

/-! Surroundings that programs share in which nothing fails. A call is one step, the instant at which
the provider does its work: neither that it was issued before nor that its reply arrives later touches
anything shared, and what is written of it is written in a step of its own. -/

namespace AddressSync

open Simulation

inductive Deed
  | looked
  | called (c : Call)
  | wrote
  deriving DecidableEq

namespace Sync

def deeds : Request → List Deed
  | .look => [.looked]
  | .call c => [.called c]
  | .revise _ => [.wrote]
  | .detect .. | .stopRequested | .limitWork _ | .log _ | .emit _ => []

end Sync

namespace Scene

/-- What a request may come to: each call is performed and has the provider's reply. -/
def Served (s : Scene) : (r : Sync.Request) → Sync.Answer r → Scene → Prop
  | .call c, reply, s' =>
    s.now ≤ s'.now ∧ s'.caches = s.caches ∧ s.provider.perform c = (reply, s'.provider)
  | .look, seen, s' => s.now ≤ s'.now ∧ s' = { s with now := s'.now } ∧ seen = (s'.now, s.caches)
  | .revise change, _, s' =>
    s.now ≤ s'.now ∧ s' = { s with now := s'.now, caches := change s'.now s.caches }
  | .detect .., _, s' => s.now ≤ s'.now ∧ s' = { s with now := s'.now }
  | .stopRequested, _, s' | .limitWork _, _, s' | .log _, _, s' | .emit _, _, s' => s' = s

def serve : Program.Reaction Sync.signature Scene Deed :=
  fun s r x es s' => s.Served r x s' ∧ es = Sync.deeds r

def serveAtOnce : (r : Sync.Request) → Scene → Sync.Answer r × Scene
  | .call c, s => ((s.provider.perform c).1, { s with provider := (s.provider.perform c).2 })
  | .look, s => ((s.now, s.caches), s)
  | .revise change, s => ((), { s with caches := change s.now s.caches })
  | .detect .., s => (none, s)
  | .stopRequested, s => (false, s)
  | .limitWork _, s | .log _, s | .emit _, s => ((), s)

theorem serve_serveAtOnce (r : Sync.Request) (s : Scene) :
    s.serve r (serveAtOnce r s).1 (Sync.deeds r) (serveAtOnce r s).2 := by
  have now := Nat.le_refl s.now
  refine ⟨?_, rfl⟩
  cases r with
  | call c => exact ⟨now, rfl, rfl⟩
  | look => exact ⟨now, rfl, rfl⟩
  | revise | detect => exact ⟨now, rfl⟩
  | stopRequested | limitWork | log | emit => rfl

end Scene

end AddressSync
