import AddressSync.Domain
import AddressSync.Provider.Basic

/-! The calls that a provider answers, each with the type of its answer. -/

namespace AddressSync

inductive Call
  | listZones (name : String)
  | listRecords (zone : String) (domain : Domain) (family : Family)
  | createRecord (zone : String) (domain : Domain) (family : Family) (address : Address)
      (attributes : Attributes)
  /-- Changes the address of a record and nothing else of it. -/
  | updateRecord (zone : String) (domain : Domain) (family : Family) (id : String)
      (address : Address)
  | deleteRecord (zone : String) (id : String)
  | listLists (account : String)
  | createList (account name description : String)
  | deleteList (account id : String)
  | listItems (account id : String)
  | createItems (account id : String) (blocks : List Block) (comment : String)
  | deleteItems (account id : String) (items : List String)
  /-- Starts to replace all items of a list; the provider may finish later. -/
  | replaceItems (account id : String) (blocks : List Block)
  deriving DecidableEq

abbrev Call.Reply : Call → Type
  | .listZones _ => List Zone
  | .listRecords .. => List Record
  | .createRecord .. => Record
  | .updateRecord .. => Unit
  | .deleteRecord .. => Unit
  | .listLists _ => List NamedList
  | .createList .. => NamedList
  | .deleteList .. => Unit
  | .listItems .. => List ListItem
  | .createItems .. => List ListItem
  | .deleteItems .. => Unit
  | .replaceItems .. => Unit

def Call.isMutation : Call → Bool
  | .listZones _ | .listRecords .. | .listLists _ | .listItems .. => false
  | _ => true

end AddressSync
