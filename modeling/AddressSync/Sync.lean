import AddressSync.Caches
import AddressSync.Event
import AddressSync.Log
import AddressSync.Program
import AddressSync.Provider.Call

/-! Programs that keep a provider in step with detected addresses: what they may ask of their
surroundings. Each request is one undivided step, so that two programs in turns meet only between
requests; in particular a cache is never held across a call. -/

namespace AddressSync.Sync

inductive Request
  | call (c : Call)
  | detect (family : Family) (limit : Nat)
  | look
  | revise (change : Nat → Caches → Caches)
  /-- Whether the work under way was asked to stop or is past its deadline. -/
  | stopRequested
  /-- Sets the deadline of the work that begins, in milliseconds from now, or lifts it. -/
  | limitWork (limit : Option Nat)
  | log (line : Log.Line)
  | emit (event : Event)

abbrev Answer : Request → Type
  | .call c => Except Failure c.Reply
  | .detect _ _ => Option (Except Failure Address)
  | .look => Nat × Caches
  | .revise _ => Unit
  | .stopRequested => Bool
  | .limitWork _ => Unit
  | .log _ => Unit
  | .emit _ => Unit

def signature : Signature := ⟨Request, Answer⟩

end Sync

abbrev Sync := Program Sync.signature

namespace Sync

def call (c : Call) : Sync (Except Failure c.Reply) := Program.perform (S := signature) (.call c)

def detect (family : Family) (limit : Nat) : Sync (Option (Except Failure Address)) :=
  Program.perform (S := signature) (.detect family limit)

def look : Sync (Nat × Caches) := Program.perform (S := signature) .look

def revise (change : Nat → Caches → Caches) : Sync Unit :=
  Program.perform (S := signature) (.revise change)

def stopRequested : Sync Bool := Program.perform (S := signature) .stopRequested

def limitWork (limit : Option Nat) : Sync Unit :=
  Program.perform (S := signature) (.limitWork limit)

def log (level : Log.Level) (message : String) (fields : List (String × Log.Field)) : Sync Unit :=
  Program.perform (S := signature) (.log ⟨level, message, fields⟩)

def emit (event : Event) : Sync Unit := Program.perform (S := signature) (.emit event)

def within {α : Type} (limit : Nat) (work : Sync α) : Sync α := do
  limitWork (some limit)
  let result ← work
  limitWork none
  return result

end AddressSync.Sync
