import AddressSync.Cloudflare.Client
import AddressSync.Proofs.Json.Printing

/-! Replies that hold what was printed for them. -/

namespace AddressSync.Cloudflare

open Http Json

variable {α : Type} {read : Value → Option α} {v : Value}

theorem readReply_print {envelope : Envelope α} (plain : v.isPlain = true)
    (holds : Envelope.ofJson? read v = some envelope) (success : envelope.success = true) :
    readReply read (.response 200 v.print) = .ok envelope := by
  have parsed : Envelope.parse? read v.print = some envelope := by
    rw [Envelope.parse?, parse?_print plain, Option.bind_some, holds]
  rw [readReply, parsed]
  dsimp only
  rw [success]
  rfl

def granted (result : Value) : Reply :=
  .response 200 (Value.record [("success", .bool true), ("result", result)]).print

theorem readReply_granted {x : α} (plain : v.isPlain = true)
    (reads : nullable read v = some (some x)) :
    readReply read (granted v) = .ok ⟨true, [], some x, none⟩ := by
  refine readReply_print (by simp [Value.record, Value.isPlain, plainEntries, plain]) ?_ rfl
  have envelope : Envelope.ofJson? read (.record [("success", .bool true), ("result", v)]) =
      (nullable read v).bind fun result => some ⟨true, [], result, none⟩ := rfl
  rw [envelope, reads]
  rfl

/-- Words that name the URL of a request without a query, and none of its headers. -/
def plainWords : Words where
  lost r _ := s!"error sending request for url ({r.url})"
  broken r _ := s!"error decoding response body for url ({r.url})"
  misfit _ _ := "expected value at line 1 column 1"

def visitor : Client where
  token := "t"
  trial := false
  words := plainWords

end AddressSync.Cloudflare
