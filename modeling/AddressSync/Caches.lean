import AddressSync.Cache
import AddressSync.Domain
import AddressSync.Provider.Basic

/-! The caches in front of a provider, one for each kind of answer. -/

namespace AddressSync

structure ListIndex where
  lists : List NamedList := []
  deriving DecidableEq

namespace ListIndex

def find? (x : ListIndex) (name : String) : Option NamedList := x.lists.find? (·.name == name)

def insert (x : ListIndex) (l : NamedList) : ListIndex :=
  ⟨x.lists.filter (·.name ≠ l.name) ++ [l]⟩

def dropId (x : ListIndex) (id : String) : ListIndex := ⟨x.lists.filter (·.id ≠ id)⟩

/-- The lists of addresses among all lists of an account; of two with one name the later counts. -/
def ofLists (lists : List NamedList) : ListIndex :=
  (lists.filter NamedList.holdsAddresses).foldl insert {}

end ListIndex

structure RecordsKey where
  zone : String
  domain : Domain
  family : Family
  deriving DecidableEq

structure Caches where
  zones : Cache String (List Zone)
  owners : Cache Domain String
  records : Cache RecordsKey (List Record)
  indexes : Cache String ListIndex
  items : Cache String (List ListItem)

namespace Caches

def empty (lifetime : Nat) : Caches :=
  ⟨⟨lifetime, []⟩, ⟨lifetime, []⟩, ⟨lifetime, []⟩, ⟨lifetime, []⟩, ⟨lifetime, []⟩⟩

def flush (c : Caches) : Caches :=
  ⟨c.zones.clear, c.owners.clear, c.records.clear, c.indexes.clear, c.items.clear⟩

def sizes (c : Caches) : List Nat :=
  [c.zones.size, c.owners.size, c.records.size, c.indexes.size, c.items.size]

end Caches

end AddressSync
