/-! When cycles are due. Each has a due time; one that is served late by more than a small slack
moves the next one to a full interval after it was served, so that slow cycles never bunch. -/

namespace AddressSync.Schedule

/-- A cycle counts as late when it is served more than this many milliseconds after it was due. -/
def slack : Nat := 5

def next (interval due served : Nat) : Nat :=
  if due + slack < served then served + interval else due + interval

theorem lt_next (interval due served : Nat) (h : 0 < interval) :
    due < next interval due served := by
  unfold next; split <;> omega

/-- Serves cycles until the time of the shutdown, from a state with a clock: `idle` lets time pass
up to the given instant, and `cycle` does one cycle, which may take time. A shutdown is heeded
before a cycle that is due, but never within one. -/
def serve {σ : Type} (clock : σ → Nat) (idle : Nat → σ → σ) (cycle : σ → σ) (interval : Nat)
    (positive : 0 < interval) (shutdown : Nat) (due : Nat) (s : σ) : σ :=
  let served := max due (clock s)
  if shutdown ≤ served then idle shutdown s
  else serve clock idle cycle interval positive shutdown (next interval due served)
    (cycle (idle due s))
termination_by shutdown - due
decreasing_by
  have := lt_next interval due (max due (clock s)) positive
  omega

end AddressSync.Schedule
