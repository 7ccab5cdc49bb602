import AddressSync.Environment

/-! The command. It reads the configuration from the environment and tells why it is refused. The
service is a program whose requests others carry out, and the command has no network to carry them
out on, so a configuration that is accepted ends the run as well, with a code of its own. -/

namespace AddressSync.Command

open Environment

def capture : IO Variables := do
  let set ← names.filterMapM fun name => return (← IO.getEnv name).map (name, ·)
  return fun name => set.lookup name

def start : IO UInt32 := do
  let vars ← capture
  (warnings vars).forM IO.eprintln
  match complaint? vars with
  | some complaint =>
    IO.eprintln complaint
    return .ofNat refusedCode
  | none =>
    IO.eprintln "Startup failed: no network transport is available"
    return .ofNat brokenCode

end AddressSync.Command

def main : IO UInt32 := AddressSync.Command.start
