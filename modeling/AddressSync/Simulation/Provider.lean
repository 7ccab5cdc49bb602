import AddressSync.Provider.Call

/-! A provider in memory. It keeps what it holds in the order in which it came, and numbers all
that it makes by one counter. -/

namespace AddressSync.Simulation

structure PlacedRecord where
  zone : String
  name : String
  record : Record
  deriving DecidableEq

structure PlacedList where
  account : String
  list : NamedList
  deriving DecidableEq

structure Provider where
  zones : List Zone := []
  records : List PlacedRecord := []
  lists : List PlacedList := []
  items : List (String × List ListItem) := []
  made : Nat := 0

def Provider.name : String := "mock"

namespace Provider

def itemsOf (p : Provider) (list : String) : List ListItem := (p.items.lookup list).getD []

def changeItems (p : Provider) (list : String) (change : List ListItem → List ListItem) :
    Provider :=
  if p.items.any (·.1 == list) then
    { p with items := p.items.map fun (id, items) =>
        (id, if id == list then change items else items) }
  else { p with items := p.items ++ [(list, change [])] }

def newItems (made : Nat) : List Block → List ListItem
  | [] => []
  | block :: rest => ⟨s!"item-{made + 1}", block⟩ :: newItems (made + 1) rest

def recordsOf (p : Provider) (zone name : String) (family : Family) : List Record :=
  (p.records.filter fun r =>
    r.zone = zone && r.name = name && r.record.address.family = family).map PlacedRecord.record

def readdressFirst (id : String) (address : Address) : List PlacedRecord → Option (List PlacedRecord)
  | [] => none
  | r :: rest =>
    if r.record.id = id then some ({ r with record := { r.record with address } } :: rest)
    else (readdressFirst id address rest).map (r :: ·)

def perform (p : Provider) : (c : Call) → Except Failure c.Reply × Provider
  | .listZones name => (.ok (p.zones.filter (·.name = name)), p)
  | .listRecords zone domain family => (.ok (p.recordsOf zone domain.print family), p)
  | .createRecord zone domain _ address attributes =>
    let record : Record := ⟨s!"rec-{p.made + 1}", address, attributes⟩
    (.ok record, { p with
      records := p.records ++ [{ zone, name := domain.print, record }], made := p.made + 1 })
  | .updateRecord _ _ _ id address =>
    match readdressFirst id address p.records with
    | some records => (.ok (), { p with records })
    | none => (.error (.notFound id), p)
  | .deleteRecord _ id =>
    if p.records.any (·.record.id = id) then
      (.ok (), { p with records := p.records.filter (·.record.id ≠ id) })
    else (.error (.notFound id), p)
  | .listLists account =>
    (.ok ((p.lists.filter (·.account = account)).map PlacedList.list), p)
  | .createList account name description =>
    let list : NamedList := ⟨s!"list-{p.made + 1}", name, description, "ip"⟩
    let p : Provider := { p with lists := p.lists ++ [{ account, list }], made := p.made + 1 }
    (.ok list, p.changeItems list.id fun _ => [])
  | .deleteList _ id =>
    (.ok (), { p with
      lists := p.lists.filter (·.list.id ≠ id), items := p.items.filter (·.1 ≠ id) })
  | .listItems _ id => (.ok (p.itemsOf id), p)
  | .createItems _ id blocks _ =>
    let created := newItems p.made blocks
    let p := p.changeItems id (· ++ created)
    (.ok created, { p with made := p.made + blocks.length })
  | .deleteItems _ id ids =>
    if p.items.any (·.1 = id) then
      (.ok (), p.changeItems id (·.filter fun item => !ids.contains item.id))
    else (.ok (), p)
  | .replaceItems _ id blocks =>
    let p' := p.changeItems id fun _ => newItems p.made blocks
    (.ok (), { p' with made := p.made + blocks.length })

end Provider

end AddressSync.Simulation
