import AddressSync.Provider.Call

/-! Calls made to fail on purpose: which calls, how often, and whether they do their work all the
same. -/

namespace AddressSync.Simulation

inductive Kind
  | listZones
  | listRecords
  | createRecord
  | updateRecord
  | deleteRecord
  | listLists
  | createList
  | deleteList
  | listItems
  | createItems
  | deleteItems
  | replaceItems
  deriving DecidableEq, Repr

def Kind.all : List Kind :=
  [.listZones, .listRecords, .createRecord, .updateRecord, .deleteRecord, .listLists, .createList,
    .deleteList, .listItems, .createItems, .deleteItems, .replaceItems]

def Kind.word : Kind → String
  | .listZones => "ListZones"
  | .listRecords => "ListRecords"
  | .createRecord => "CreateRecord"
  | .updateRecord => "UpdateRecord"
  | .deleteRecord => "DeleteRecord"
  | .listLists => "ListLists"
  | .createList => "CreateList"
  | .deleteList => "DeleteList"
  | .listItems => "ListItems"
  | .createItems => "CreateItems"
  | .deleteItems => "DeleteItems"
  | .replaceItems => "ReplaceItems"

def Kind.ofWord? (word : String) : Option Kind := all.find? (·.word == word)

def kindOf : Call → Kind
  | .listZones _ => .listZones
  | .listRecords .. => .listRecords
  | .createRecord .. => .createRecord
  | .updateRecord .. => .updateRecord
  | .deleteRecord .. => .deleteRecord
  | .listLists _ => .listLists
  | .createList .. => .createList
  | .deleteList .. => .deleteList
  | .listItems .. => .listItems
  | .createItems .. => .createItems
  | .deleteItems .. => .deleteItems
  | .replaceItems .. => .replaceItems

def targetOf : Call → String
  | .listZones name => name
  | .listRecords _ domain _ | .createRecord _ domain .. => domain.print
  | .updateRecord _ _ _ id _ | .deleteRecord _ id => id
  | .listLists account => account
  | .createList _ name _ => name
  | .deleteList _ id | .listItems _ id | .createItems _ id .. | .deleteItems _ id _
  | .replaceItems _ id _ => id

structure Fault where
  kind : Kind
  target : Option String
  left : Option Nat
  failure : Failure
  /-- Whether the call does its work although it fails. -/
  effective : Bool

def Fault.strikes (f : Fault) (c : Call) : Bool :=
  f.kind = kindOf c && f.target.all (· == targetOf c) && f.left ≠ some 0

def Fault.spend (f : Fault) : Fault := { f with left := f.left.map (· - 1) }

def strike? (c : Call) : List Fault → Option (Fault × List Fault)
  | [] => none
  | f :: rest =>
    if f.strikes c then some (f, f.spend :: rest)
    else (strike? c rest).map fun (struck, rest) => (struck, f :: rest)

end AddressSync.Simulation
