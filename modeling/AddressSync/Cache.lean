/-! A cache whose entries live for a fixed time after they are set. Times are in milliseconds of a
clock that the caller reads. An entry that has expired is no answer, but stays until the next
write sweeps it; a change of an entry never makes it live longer. -/

namespace AddressSync

structure Cache.Entry (κ ν : Type) where
  key : κ
  value : ν
  expires : Nat

structure Cache (κ ν : Type) where
  lifetime : Nat
  entries : List (Cache.Entry κ ν) := []

namespace Cache

variable {κ ν : Type} [DecidableEq κ]

def Entry.isLive (now : Nat) (e : Entry κ ν) : Bool := now < e.expires

def get? (c : Cache κ ν) (now : Nat) (key : κ) : Option ν :=
  (c.entries.find? fun e => e.key = key && e.isLive now).map Entry.value

def sweep (c : Cache κ ν) (now : Nat) : Cache κ ν :=
  { c with entries := c.entries.filter (Entry.isLive now) }

def erase (c : Cache κ ν) (key : κ) : Cache κ ν :=
  { c with entries := c.entries.filter fun e => e.key ≠ key }

def clear (c : Cache κ ν) : Cache κ ν := { c with entries := [] }

def set (c : Cache κ ν) (now : Nat) (key : κ) (value : ν) : Cache κ ν :=
  let rest := (c.sweep now).erase key
  { rest with entries := rest.entries ++ [⟨key, value, now + c.lifetime⟩] }

/-- Changes the value of a live entry in place; without one, only sweeps. -/
def modify (c : Cache κ ν) (now : Nat) (key : κ) (change : ν → ν) : Cache κ ν :=
  let live := c.sweep now
  { live with
    entries := live.entries.map fun e => if e.key = key then { e with value := change e.value } else e }

def update (c : Cache κ ν) (now : Nat) (key : κ) (change : ν → ν) : Bool × Cache κ ν :=
  ((c.sweep now).entries.any fun e => e.key = key, c.modify now key change)

def size (c : Cache κ ν) : Nat := c.entries.length

end Cache

end AddressSync
