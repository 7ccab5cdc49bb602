import AddressSync.Simulation.Fault
import AddressSync.Simulation.Provider

/-! What others do to the simulated surroundings: changes at the provider behind the program's
back, faults, slow calls, and the answers of the address source. -/

namespace AddressSync.Simulation

inductive Sight
  | address (a : Address) (delay : Nat)
  | failure (f : Failure)
  | silence

inductive Intervention
  | addZone (zone : Zone)
  | removeZone (id : String)
  | addRecord (zone name : String) (id : Option String) (address : Address)
      (attributes : Attributes)
  | removeRecord (id : String)
  | addList (account : String) (id : Option String) (name description kind : String)
  | removeList (id : String)
  | addItem (list : String) (id : Option String) (block : Block)
  | fault (f : Fault)
  | recover
  | latency (kind : Kind) (delay : Nat)
  | source (family : Family) (sights : List Sight)

def Provider.identify (p : Provider) (kind : String) : Option String → String × Provider
  | some id => (id, p)
  | none => (s!"{kind}-{p.made + 1}", { p with made := p.made + 1 })

end AddressSync.Simulation
