import VlanBridge.Codec.Scenario
import VlanBridge.Codec.Traffic
/-!
# Simulations

A simulation builds the bridge of a scenario over devices that only count, lets one worker per port
send its frames, lets the port that is to be deleted and added go through that once, and reports what
the workers, the devices and the bridge have counted.

Time stands still while the workers send, so nothing ages.
-/

namespace VlanBridge

open VlanBridge.Net VlanBridge.Data VlanBridge.Traffic

structure SimulationReport where
  churnCycles : Nat
  /-- How many forwarding entries there are at the end. -/
  fdbEntries : Nat
  counters : Counters
  /-- In the order of the ports' names. -/
  workers : List WorkerReport
  /-- How many frames each device has sent, in the order of their names. -/
  deviceTx : List (String × Nat)
  localDelivered : Nat
  deriving DecidableEq

inductive SimulationError where
  | load (error : Scenario.LoadError)
  /-- The bridge cannot be made, or not as the topology says. -/
  | bridge (error : BridgeError)
  /-- Deleting and adding without a pause is not possible. -/
  | zeroChurnInterval
  deriving DecidableEq, Repr

namespace SimulationError

def message : SimulationError → String
  | .load (.file .unreadable) => "the scenario cannot be read"
  | .load (.file .malformed) => "the scenario cannot be understood"
  | .load (.invalid error) => error.message
  | .bridge error => error.message
  | .zeroChurnInterval => "the churn interval is zero"

end SimulationError

namespace Simulation

def deviceMac (n : Nat) : Mac :=
  let n := min n 65535
  ⟨0x02, 0xaa, 0, 0, UInt8.ofNat (n / 256), UInt8.ofNat n⟩

/-- The devices with the given names, numbered from 1. -/
def devices (names : List String) : List Device :=
  (names.zipIdx 1).map fun p => { name := p.1, mac := deviceMac p.2, captures := false }

/-- The network of a topology: a registered device for each port. -/
def network (t : Topology) : Network :=
  (devices t.ports).foldl (fun net d => (net.addRegistered d).1) {}

def build (s : Scenario) : Except BridgeError Bridge :=
  match Bridge.create s.bridge (network s.topology) with
  | .error e => .error e
  | .ok b =>
    match b.handleAll s.topology.requests with
    | (_, .error e) => .error e
    | (b, .ok ()) =>
      match b.startAgeing (some {}) with
      | (_, .error e) => .error e
      | (b, .ok ()) => .ok b

def traffics (s : Scenario) : List PortTraffic :=
  s.topology.ports.zipIdx.map fun p =>
    { port := p.1
      ordinal := p.2
      frames := s.traffic.framesPerPort
      stations := s.traffic.stationsPerPort
      peers := s.topology.ports.map fun _ => s.traffic.stationsPerPort
      taggedVlans := s.topology.taggedVlans p.1
      broadcastPercent := s.traffic.broadcastPercent }

/-- Lets the workers send, one after the other; a worker that cannot go on reports nothing. -/
def runWorkers (dice : PortTraffic → Dice) : List PortTraffic → Bridge → Bridge × List WorkerReport
  | [], b => (b, [])
  | t :: ts, b =>
    let (b, result) := runPort .silent (dice t) b t
    let (b, reports) := runWorkers dice ts b
    (b, result.toOption.toList ++ reports)

/-- Deletes the port that is to be deleted, and adds it again; says how often. -/
def churn (s : Scenario) (b : Bridge) : Except SimulationError (Bridge × Nat) :=
  match s.traffic.churnPort with
  | none => .ok (b, 0)
  | some port =>
    if s.traffic.churnIntervalMs = 0 then .error .zeroChurnInterval
    else .ok (b.handleEach (s.topology.renewal port), 1)

def report (b : Bridge) (workers : List WorkerReport) (churnCycles : Nat) : SimulationReport :=
  { churnCycles
    fdbEntries := b.fdb.size
    counters := b.counters
    workers := workers.mergeSort fun r q => !decide (q.port < r.port)
    deviceTx :=
      (b.network.devices.toList.map fun d => (d.name, d.txFrames.toNat)).mergeSort
        fun p q => !decide (q.1 < p.1)
    localDelivered := b.network.stack.count.toNat }

def runWith (dice : PortTraffic → Dice) (s : Scenario) : Except SimulationError SimulationReport :=
  match s.validate with
  | .error e => .error (.load (.invalid e))
  | .ok () =>
    match build s with
    | .error e => .error (.bridge e)
    | .ok b =>
      let (b, workers) := runWorkers dice (traffics s) b
      match churn s b with
      | .error e => .error e
      | .ok (b, cycles) => .ok (report b workers cycles)

/-- The random numbers of a worker, which belong to the scenario's seed and its port. -/
def dice (s : Scenario) (t : PortTraffic) : Dice := Dice.seeded (s.traffic.seed ^^^ t.ordinal)

structure Changes where
  framesPerPort : Option Nat := none
  churnPort : Option String := none
  deriving DecidableEq, Repr

def Changes.apply (c : Changes) (s : Scenario) : Scenario :=
  { s with
    traffic.framesPerPort := c.framesPerPort.getD s.traffic.framesPerPort
    traffic.churnPort := c.churnPort.or s.traffic.churnPort }

/-- Runs the scenario of a file with the changes of a user. -/
def run (file : SettingsFile) (changes : Changes) : Except SimulationError SimulationReport :=
  match Scenario.load file with
  | .error e => .error (.load e)
  | .ok s =>
    let s := changes.apply s
    runWith (dice s) s

end Simulation

/-! ### Reports as data -/

namespace SimulationReport

/-- The parts of a report that do not tell how long the simulation has taken. -/
def fields (r : SimulationReport) : Fields :=
  [("churn_cycles", Value.nat r.churnCycles), ("fdb_entries", Value.nat r.fdbEntries),
    ("counters", r.counters.toValue), ("workers", .arr (r.workers.map (·.toValue))),
    ("device_tx", .obj (r.deviceTx.map fun p => (p.1, Value.nat p.2))),
    ("local_delivered", Value.nat r.localDelivered)]

def toValue (r : SimulationReport) (elapsedMs : Nat) : Value :=
  .obj (("elapsed_ms", Value.nat elapsedMs) :: r.fields)

end SimulationReport

end VlanBridge
