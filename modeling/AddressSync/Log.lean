/-! Log lines: a level, a message, and named values beside it. -/

namespace AddressSync.Log

inductive Level
  | error
  | warn
  | info
  | debug
  | trace
  deriving DecidableEq, Repr

def Level.severity : Level → Nat
  | .error => 0
  | .warn => 1
  | .info => 2
  | .debug => 3
  | .trace => 4

def Level.name : Level → String
  | .error => "ERROR"
  | .warn => "WARN"
  | .info => "INFO"
  | .debug => "DEBUG"
  | .trace => "TRACE"

def Level.shownAt (level threshold : Level) : Bool := level.severity ≤ threshold.severity

inductive Field
  | text (s : String)
  | number (n : Nat)
  | flag (b : Bool)
  deriving DecidableEq, Repr

structure Line where
  level : Level
  message : String
  fields : List (String × Field) := []
  deriving DecidableEq, Repr

end AddressSync.Log
