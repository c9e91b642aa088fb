import VlanBridge.Learning
import VlanBridge.PortTable
import VlanBridge.Text.Quoted
import VlanBridge.Timer
import VlanBridge.VlanDb
/-!
# A bridge and what surrounds it

The state of a bridge: its settings, ports, VLANs and forwarding table, the network stack whose
devices it uses, the trap that may take frames away, and when its ageing task wakes next.

Each control operation gives the state after it and either an answer or the cause of its failure.
-/

namespace VlanBridge

open VlanBridge.Net VlanBridge.Text

/-- A test that picks the frames which the control plane takes. -/
structure Trap where
  accepts : (ingress : PortIndex) → (vid : Vid) → (frame : Frame) → Bool

structure Bridge extends Learning where
  config : BridgeConfig
  ports : PortTable
  vlans : VlanDb
  network : Network := {}
  trap : Option Trap := none
  /-- What wakes the ageing task next, if it runs. -/
  nextSweep : Option Alarm := none

namespace Bridge

/-- The state after an operation, with its answer or the cause of its failure. -/
abbrev Outcome (α : Type) := Bridge × Except BridgeError α

/-- Gives the answer of an operation another form. -/
def answer {α β : Type} (o : Outcome α) (form : α → β) : Outcome β :=
  (o.1, match o.2 with
    | .ok a => .ok (form a)
    | .error e => .error e)

/-- A new bridge: the local port is an untagged member of VLAN 0. -/
def create (config : BridgeConfig) (network : Network) : Except BridgeError Bridge :=
  match config.validate with
  | .error e => .error (.config e)
  | .ok () =>
    .ok {
      fdb := { ageing := config.ageingNs }
      config
      ports := (PortTable.ofName config.name).activate localPort
      vlans := (VlanDb.initial config.defaultLearning).modify Vid.zero (·.attach localPort false)
      network }

/-- The handle of the local port, which is never replaced. -/
def localHandle : Handle := ⟨localPort.val, 1⟩

/-- Changes the forwarding table and what belongs to it. -/
def withLearning (b : Bridge) (s : Learning) : Bridge := { b with toLearning := s }

def release (b : Bridge) : Release → Bridge
  | .entries => b
  | .vlan serial => { b with vlans := b.vlans.discard serial }
  | .slot i => { b with ports := b.ports.free i }

/-- Runs the releases that have become ready; says how many. -/
def reclaim (b : Bridge) : Bridge × Nat :=
  let (s, released) := b.toLearning.reclaim
  (released.foldl release (b.withLearning s), released.length)

/-- Runs the releases that have become ready; says whether none is left. -/
def quiesce (b : Bridge) : Bridge × Bool :=
  let (b, _) := b.reclaim
  (b, b.reclaimer.pending = 0)

/-- Queues a release and runs those that have become ready. -/
def retire (b : Bridge) (r : Release) : Bridge :=
  ({ b with reclaimer := b.reclaimer.retire r } : Bridge).reclaim.1

def text (b : Bridge) : String :=
  "Bridge \x7b name: " ++ Quoted.text b.config.name ++ ", ports: " ++ b.ports.text
    ++ ", vlans: " ++ b.vlans.text ++ ", fdb: " ++ b.fdb.text ++ ", epoch: " ++ b.reclaimer.text ++ " \x7d"

end Bridge

end VlanBridge
