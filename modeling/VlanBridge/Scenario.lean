import VlanBridge.Config.File
import VlanBridge.Topology
/-!
# Scenarios

A scenario is what a simulation is run with: the settings of the bridge, its topology and the
traffic on its ports. `validate` checks a scenario part by part and gives the first fault; what it
accepts names only ports of the topology and only VLANs that the topology has.
-/

namespace VlanBridge

open VlanBridge.Net

structure TrafficPlan where
  framesPerPort : Nat := 100000
  stationsPerPort : Nat := 16
  /-- Which share of the frames goes to all stations, in percent. -/
  broadcastPercent : Nat := 5
  /-- The port that is deleted and added again while frames are sent. -/
  churnPort : Option String := none
  churnIntervalMs : Nat := 50
  seed : Nat := 0
  deriving DecidableEq, Repr

structure Scenario where
  bridge : BridgeConfig := {}
  topology : Topology := {}
  traffic : TrafficPlan := {}
  deriving DecidableEq, Repr

inductive ScenarioError where
  | bridge (error : ConfigError)
  | unknownMember (vid : Vid) (port : String)
  | unknownPvidPort (port : String)
  | unknownPvid (vid : Vid) (port : String)
  /-- The port to be deleted and added is not there. -/
  | unknownChurnPort (port : String)
  | noStations
  /-- More than all frames would go to all stations. -/
  | broadcastShare
  deriving DecidableEq, Repr

def ScenarioError.message : ScenarioError → String
  | .bridge error => (BridgeError.config error).message
  | .unknownMember vid port => "vlan " ++ vid.text ++ ": unknown port " ++ port
  | .unknownPvidPort port => "pvid for unknown port " ++ port
  | .unknownPvid vid port => "pvid " ++ vid.text ++ " of " ++ port ++ " names an unconfigured vlan"
  | .unknownChurnPort port => "churn port " ++ port ++ " is not in the topology"
  | .noStations => "stations_per_port must be > 0"
  | .broadcastShare => "broadcast_percent must be <= 100"

namespace Topology

/-- The first port that a VLAN lists and that is not there. -/
def memberFault? (t : Topology) (v : VlanPlan) : Option ScenarioError :=
  (v.ports.find? (· ∉ t.ports)).map (.unknownMember v.vid)

/-- What is wrong with a port's VLAN. VLAN 0 is always there. -/
def pvidFault? (t : Topology) (port : String) (vid : Vid) : Option ScenarioError :=
  if port ∉ t.ports then some (.unknownPvidPort port)
  else if vid ≠ Vid.zero ∧ vid ∉ t.vlans.map (·.vid) then some (.unknownPvid vid port)
  else none

/-- The first thing that is wrong with a topology. -/
def fault? (t : Topology) : Option ScenarioError :=
  (t.vlans.findSome? t.memberFault?).or (t.pvids.findSome? fun p => t.pvidFault? p.1 p.2)

end Topology

namespace TrafficPlan

/-- The first thing that is wrong with the traffic on the ports of a topology. -/
def fault? (p : TrafficPlan) (t : Topology) : Option ScenarioError :=
  match p.churnPort.filter (· ∉ t.ports) with
  | some port => some (.unknownChurnPort port)
  | none =>
    if p.stationsPerPort = 0 then some .noStations
    else if 100 < p.broadcastPercent then some .broadcastShare
    else none

end TrafficPlan

namespace Scenario

/-- Checks the parts of a scenario in their order. -/
def validate (s : Scenario) : Except ScenarioError Unit :=
  match s.bridge.validate with
  | .error e => .error (.bridge e)
  | .ok () =>
    match s.topology.fault?.or (s.traffic.fault? s.topology) with
    | some e => .error e
    | none => .ok ()

theorem validate_eq_ok_iff {s : Scenario} :
    s.validate = .ok () ↔
      s.bridge.validate = .ok () ∧ s.topology.fault? = none ∧
        s.traffic.fault? s.topology = none := by
  unfold validate
  cases hb : s.bridge.validate with
  | error e => simp
  | ok u =>
    cases ht : s.topology.fault? with
    | some e => simp
    | none => cases hp : s.traffic.fault? s.topology <;> simp

end Scenario

end VlanBridge
