import AddressSync.Json.Fields
import AddressSync.Json.Parser

/-! The bodies of the Cloudflare interface as they come over the wire. -/

namespace AddressSync.Cloudflare

open Json

structure Message where
  code : Int
  text : String
  deriving DecidableEq, Repr

def Message.ofJson? (v : Value) : Option Message := do
  let f ← v.fields? ["code", "message"]
  return ⟨← f.withDefault "code" 0 Value.int64?, ← f.withDefault "message" "" Value.string?⟩

structure PageInfo where
  page : Option Nat
  totalPages : Option Nat
  after : Option String
  deriving DecidableEq, Repr

def cursorsOfJson? (v : Value) : Option (Option String) := do
  let f ← v.fields? ["after"]
  f.optional "after" Value.string?

def PageInfo.ofJson? (v : Value) : Option PageInfo := do
  let f ← v.fields? ["page", "total_pages", "cursors"]
  let page ← f.optional "page" (Value.nat? (UInt32.size - 1))
  let totalPages ← f.optional "total_pages" (Value.nat? (UInt32.size - 1))
  let cursors ← f.optional "cursors" cursorsOfJson?
  return ⟨page, totalPages, cursors.join⟩

def PageInfo.hasNext (p : PageInfo) : Bool :=
  match p.page, p.totalPages with
  | some page, some total => page < total
  | _, _ => false

/-- The cursor of the next page; an empty one ends the chain. -/
def PageInfo.next? (p : PageInfo) : Option String := p.after.filter (· ≠ "")

structure Envelope (α : Type) where
  success : Bool
  errors : List Message
  result : Option α
  info : Option PageInfo

def Envelope.ofJson? {α : Type} (read : Value → Option α) (v : Value) : Option (Envelope α) := do
  let f ← v.fields? ["success", "errors", "result", "result_info"]
  return { success := ← f.withDefault "success" false Value.bool?
           errors := ← f.withDefault "errors" [] (Value.list? Message.ofJson?)
           result := ← f.optional "result" read
           info := ← f.withDefault "result_info" none (nullable PageInfo.ofJson?) }

def Envelope.parse? {α : Type} (read : Value → Option α) (text : String) : Option (Envelope α) :=
  (Json.parse? text).bind (ofJson? read)

/-- A result that only has to be there, whatever it is. -/
def anything? (v : Value) : Option Value := if v.isSound (maxDepth - 1) then some v else none

structure ZoneBody where
  id : String
  name : String
  status : String

def ZoneBody.ofJson? (v : Value) : Option ZoneBody := do
  let f ← v.fields? ["id", "name", "status"]
  return { id := ← f.required "id" Value.string?
           name := ← f.required "name" Value.string?
           status := ← f.withDefault "status" "" Value.string? }

structure RecordBody where
  id : String
  type : String
  content : String
  ttl : UInt32
  proxied : Bool
  comment : Option String

def RecordBody.ofJson? (v : Value) : Option RecordBody := do
  let f ← v.fields? ["id", "type", "content", "ttl", "proxied", "comment"]
  return { id := ← f.required "id" Value.string?
           type := ← f.required "type" Value.string?
           content := ← f.required "content" Value.string?
           ttl := ← f.withDefault "ttl" 1 Value.uint32?
           proxied := ← f.withDefault "proxied" false Value.bool?
           comment := ← f.withDefault "comment" none (nullable Value.string?) }

structure ListBody where
  id : String
  name : String
  description : Option String
  kind : String

def ListBody.ofJson? (v : Value) : Option ListBody := do
  let f ← v.fields? ["id", "name", "description", "kind"]
  return { id := ← f.required "id" Value.string?
           name := ← f.required "name" Value.string?
           description := ← f.withDefault "description" none (nullable Value.string?)
           kind := ← f.required "kind" Value.string? }

structure ItemBody where
  id : String
  ip : Option String

def ItemBody.ofJson? (v : Value) : Option ItemBody := do
  let f ← v.fields? ["id", "ip"]
  return { id := ← f.required "id" Value.string?
           ip := ← f.withDefault "ip" none (nullable Value.string?) }

def operationOfJson? (v : Value) : Option String := do
  (← v.fields? ["operation_id"]).required "operation_id" Value.string?

structure OperationStatus where
  status : String
  error : Option String

def OperationStatus.ofJson? (v : Value) : Option OperationStatus := do
  let f ← v.fields? ["status", "error"]
  return { status := ← f.required "status" Value.string?
           error := ← f.withDefault "error" none (nullable Value.string?) }

def tokenStatusOfJson? (v : Value) : Option String := do
  (← v.fields? ["status"]).required "status" Value.string?

end AddressSync.Cloudflare
