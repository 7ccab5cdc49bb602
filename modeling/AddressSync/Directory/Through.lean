import AddressSync.Sync

/-! The two shapes of the operations on what a provider holds, with caches in front of it. -/

namespace AddressSync.Directory

open Sync

/-- A read: answered from the caches if they have the answer, or else by a call whose answer is
stored. -/
def fetch (c : Call) {ν : Type} (cached : Nat → Caches → Option ν) (hit : Sync Unit)
    (read : c.Reply → ν) (store : ν → Nat → Caches → Caches) : Sync (Except Failure ν) := do
  let (now, caches) ← look
  match cached now caches with
  | some value =>
    hit
    return .ok value
  | none =>
    match ← call c with
    | .error e => return .error e
    | .ok reply =>
      revise fun now caches => store (read reply) now caches
      return .ok (read reply)

/-- A change. One that the provider confirms is made in the caches too; after one that failed,
which may have happened all the same, they forget what it was about. -/
def change (c : Call) (patch : c.Reply → Nat → Caches → Caches) (forget : Caches → Caches) :
    Sync (Except Failure c.Reply) := do
  match ← call c with
  | .ok reply =>
    revise fun now caches => patch reply now caches
    return .ok reply
  | .error e =>
    revise fun _ caches => forget caches
    return .error e

end AddressSync.Directory
