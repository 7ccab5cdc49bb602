import AddressSync.Proofs.Cloudflare.Session

/-! What the answer to one request shows to have gone wrong, and which failures tell of it. -/

namespace AddressSync

open Http Json

inductive Trouble
  | transport
  | authentication
  | notFound
  | rateLimited
  | provider
  deriving DecidableEq, Repr

def Failure.trouble? : Failure → Option Trouble
  | .http _ => some .transport
  | .authentication _ => some .authentication
  | .notFound _ => some .notFound
  | .rateLimited _ => some .rateLimited
  | .provider .. => some .provider
  | _ => none

def statusTrouble (status : Nat) : Trouble :=
  if status = 401 ∨ status = 403 then .authentication
  else if status = 404 then .notFound
  else if status = 429 then .rateLimited
  else .provider

/-- What a reply shows, where a good body is one that is welcome. -/
def Http.Reply.trouble? (welcome : String → Bool) : Reply → Option Trouble
  | .none _ | .cut .. => some .transport
  | .response status text =>
    if isSuccess status then if welcome text then Option.none else some .provider
    else some (statusTrouble status)

namespace Cloudflare

variable {α : Type} {failure : Failure}

def reportsSuccess (read : Value → Option α) (text : String) : Bool :=
  (Envelope.parse? read text).any Envelope.success

theorem trouble?_statusFailure (status : Nat) (context text : String) :
    (statusFailure status context text).trouble? = some (statusTrouble status) := by
  rw [statusFailure, statusTrouble]
  split
  · rfl
  split
  · rfl
  split
  · next conflict => rw [if_neg (by omega)]; rfl
  split
  · rfl
  split <;> rfl

def Defect.trouble : Defect → Trouble
  | .lost _ | .broken _ => .transport
  | .status code _ => statusTrouble code
  | .misfit _ | .unsuccessful _ => .provider

theorem trouble?_failure (c : Client) (r : Request) (context : String) (defect : Defect) :
    (c.failure r context defect).trouble? = some defect.trouble := by
  cases defect with
  | status status text => exact trouble?_statusFailure status context text
  | lost | broken | misfit | unsuccessful => rfl

/-- A reply shows trouble exactly if it has a defect, and the trouble that stands behind it. -/
theorem trouble?_eq_readReply (read : Value → Option α) (reply : Reply) :
    reply.trouble? (reportsSuccess read) =
      match readReply read reply with
      | .ok _ => none
      | .error defect => some defect.trouble := by
  cases reply with
  | none | cut => rfl
  | response status text =>
    rw [Reply.trouble?, readReply, reportsSuccess]
    cases isSuccess status with
    | false => rfl
    | true =>
      cases Envelope.parse? read text with
      | none => rfl
      | some envelope =>
        obtain ⟨success, errors, result, info⟩ := envelope
        cases success <;> rfl

section

variable {c : Client} {r : Request} {context : String} {read : Value → Option α} {reply : Reply}
  {envelope : Envelope α}

theorem open?_eq_ok_iff : c.open? r context read reply = .ok envelope ↔
    readReply read reply = .ok envelope := by
  rw [Client.open?]
  cases readReply read reply <;> simp [Except.mapError]

theorem open?_eq_error_iff : c.open? r context read reply = .error failure ↔
    ∃ defect, readReply read reply = .error defect ∧ c.failure r context defect = failure := by
  rw [Client.open?]
  cases readReply read reply <;> simp [Except.mapError]

theorem trouble?_of_open?_ok (opened : c.open? r context read reply = .ok envelope) :
    reply.trouble? (reportsSuccess read) = none := by
  rw [trouble?_eq_readReply, open?_eq_ok_iff.mp opened]

theorem trouble?_of_open?_error (failed : c.open? r context read reply = .error failure) :
    ∃ t, reply.trouble? (reportsSuccess read) = some t ∧ failure.trouble? = some t := by
  obtain ⟨defect, here, rfl⟩ := open?_eq_error_iff.mp failed
  exact ⟨defect.trouble, by rw [trouble?_eq_readReply, here], trouble?_failure c r context defect⟩

end

end Cloudflare

end AddressSync
