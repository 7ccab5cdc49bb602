import AddressSync.Service.Cycle
import AddressSync.Service.Schedule
import AddressSync.Simulation.Intervention

/-! Simulated surroundings for programs: a clock that moves only while something waits, the
provider in memory, an address source, and a record of all that was asked of them. -/

namespace AddressSync.Simulation

def sourceName : String := "static"

/-- When the work under way is asked to stop. `fired` tells that it was. -/
structure Stop where
  fired : Bool := false
  time : Option Nat := none
  mutations : Option Nat := none
  call : Option Kind := none

inductive Asked
  | call (c : Call)
  | detect (family : Family)

structure Entry where
  time : Nat
  asked : Asked
  succeeded : Option Bool

structure World where
  now : Nat := 0
  provider : Provider := {}
  faults : List Fault := []
  latencies : List (Kind × Nat) := []
  sightsV4 : List Sight := []
  sightsV6 : List Sight := []
  caches : Caches
  agenda : List (Nat × Intervention) := []
  stop : Stop := {}
  mutations : Nat := 0
  deadline : Option Nat := none
  journal : List Entry := []
  events : List Event := []
  capacity : Nat := 0
  lines : List Log.Line := []

namespace World

def sights (w : World) : Family → List Sight | .v4 => w.sightsV4 | .v6 => w.sightsV6

def setSights (w : World) (family : Family) (sights : List Sight) : World :=
  match family with
  | .v4 => { w with sightsV4 := sights }
  | .v6 => { w with sightsV6 := sights }

def intervene (w : World) : Intervention → Option String × World
  | .addZone zone =>
    (none, { w with provider := { w.provider with zones := w.provider.zones ++ [zone] } })
  | .removeZone id =>
    (none, { w with
      provider := { w.provider with zones := w.provider.zones.filter (·.id ≠ id) } })
  | .addRecord zone name id address attributes =>
    let (id, p) := w.provider.identify "rec" id
    (some id, { w with
      provider := { p with records := p.records ++ [⟨zone, name, ⟨id, address, attributes⟩⟩] } })
  | .removeRecord id =>
    (none, { w with
      provider := { w.provider with records := w.provider.records.filter (·.record.id ≠ id) } })
  | .addList account id name description kind =>
    let (id, p) := w.provider.identify "list" id
    let list : NamedList := { id, name, description, kind }
    let p : Provider := { p with lists := p.lists ++ [{ account, list }] }
    (some id, { w with provider := p.changeItems id fun _ => [] })
  | .removeList id =>
    (none, { w with provider := (w.provider.perform (.deleteList "" id)).2 })
  | .addItem list id block =>
    let (id, p) := w.provider.identify "item" id
    (some id, { w with provider := p.changeItems list (· ++ [⟨id, block⟩]) })
  | .fault f => (none, { w with faults := w.faults ++ [f] })
  | .recover => (none, { w with faults := [] })
  | .latency kind delay => (none, { w with latencies := (kind, delay) :: w.latencies })
  | .source family sights => (none, w.setSights family sights)

def idle (instant : Nat) (w : World) : World :=
  let (due, later) := w.agenda.span fun entry => entry.1 ≤ instant
  let w := due.foldl (fun w entry => (w.intervene entry.2).2) w
  { w with now := max w.now instant, agenda := later }

def wait (w : World) (delay : Nat) : World := w.idle (w.now + delay)

def latency (w : World) (kind : Kind) : Nat := (w.latencies.lookup kind).getD 0

def note (w : World) (entry : Entry) : World := { w with journal := w.journal ++ [entry] }

def stopAsked (w : World) : Bool := w.stop.fired || w.stop.time.any (· ≤ w.now)

def stopRequested (w : World) : Bool := w.stopAsked || w.deadline.any (· ≤ w.now)

def afterCall (w : World) (c : Call) : World :=
  let mutations := if c.isMutation then w.mutations + 1 else w.mutations
  let enough := c.isMutation && w.stop.mutations.any (· ≤ mutations)
  let fired := w.stop.fired || enough || w.stop.call = some (kindOf c)
  { w with mutations, stop := { w.stop with fired } }

def answerCall (c : Call) (w : World) : Except Failure c.Reply × World :=
  let issued := w.now
  let w := w.wait (w.latency (kindOf c))
  let (reply, w) : Except Failure c.Reply × World := match strike? c w.faults with
    | some (fault, faults) =>
      let p := if fault.effective then (w.provider.perform c).2 else w.provider
      (.error fault.failure, { w with provider := p, faults })
    | none =>
      let (reply, p) := w.provider.perform c
      (reply, { w with provider := p })
  (reply, (w.note ⟨issued, .call c, some reply.toBool⟩).afterCall c)

/-- The next answer of the source for a family, and the answers after it; the last one stays. -/
def nextSight (family : Family) : List Sight → Sight × List Sight
  | [] => (.failure (.detection s!"no {family.name} address"), [])
  | [last] => (last, [last])
  | sight :: rest => (sight, rest)

def answerDetect (family : Family) (limit : Nat) (w : World) :
    Option (Except Failure Address) × World :=
  let issued := w.now
  let (sight, rest) := nextSight family (w.sights family)
  let w := w.setSights family rest
  let late := (none, (w.wait limit).note ⟨issued, .detect family, none⟩)
  match sight with
  | .silence => late
  | .failure f => (some (.error f), w.note ⟨issued, .detect family, some false⟩)
  | .address a delay =>
    if limit < delay then late
    else (some (.ok a), (w.wait delay).note ⟨issued, .detect family, some true⟩)

def addLine (w : World) (line : Log.Line) : World := { w with lines := w.lines ++ [line] }

/-- An event waits until it is fetched; when too many wait already, it is lost. -/
def addEvent (w : World) (event : Event) : World :=
  if w.events.length < w.capacity then { w with events := w.events ++ [event] }
  else w.addLine
    ⟨.warn, "Event channel full, dropping event. Consider increasing event_channel_capacity.", []⟩

def answer : (r : Sync.Request) → World → Sync.Answer r × World
  | .call c, w => w.answerCall c
  | .detect family limit, w => w.answerDetect family limit
  | .look, w => ((w.now, w.caches), w)
  | .revise change, w => ((), { w with caches := change w.now w.caches })
  | .stopRequested, w => (w.stopRequested, w)
  | .limitWork limit, w => ((), { w with deadline := limit.map (w.now + ·) })
  | .log line, w => ((), w.addLine line)
  | .emit event, w => ((), w.addEvent event)

def run {α : Type} (p : Sync α) (w : World) : α × World := Program.run answer p w

def runUntil {α : Type} (stop : Stop) (p : Sync α) (w : World) : α × World :=
  let (result, w) := ({ w with stop, mutations := 0 }).run p
  (result, { w with stop := {} })

def drain (w : World) : World := { w with journal := [], events := [], lines := [] }

/-- Runs the service from now until it is asked to stop, while others act on the agenda. The
clean-up at the end is not affected by the request that led to it. -/
def serve (service : Service) (shutdown : Nat) (agenda : List (Nat × Intervention)) (w : World) :
    Except Failure Unit × World :=
  let start := w.now
  let shutdown := start + shutdown
  let dated := agenda.map fun entry => (start + entry.1, entry.2)
  let w := { w with
    agenda := dated.mergeSort fun a b => a.1 ≤ b.1, stop := { time := some shutdown } }
  let (_, w) := w.run service.announce
  let interval := 1000 * service.settings.timing.interval.toNat
  let first := if service.settings.timing.updateOnStart then start else start + interval
  let w := if h : 0 < interval then
      Schedule.serve World.now idle (fun w => (w.run service.cycle).2) interval h shutdown first w
    else w
  let (result, w) := ({ w with stop := {} }).run service.conclude
  (result, { w with agenda := [] })

end World

end AddressSync.Simulation
