import VlanBridge.Codec.Bridge
import VlanBridge.Scenario
/-!
# Scenarios as data

A scenario is a record of three records, in which all fields but the identifiers of the VLANs may be
left out. The VLANs of the ports are a record of their own whose fields are the names of the ports;
they are kept in the order of the names.
-/

namespace VlanBridge

open VlanBridge.Net VlanBridge.Data

def namesValue (names : List String) : Value := .arr (names.map .str)

def names? : Value → Option (List String) := Value.list? Value.str?

namespace VlanPlan

def toValue (v : VlanPlan) : Value :=
  .obj [("vid", v.vid.toValue), ("untagged", namesValue v.untagged),
    ("tagged", namesValue v.tagged), ("exclusive", .bool v.exclusive)]

def read? (source : Source) (v : Value) : Option VlanPlan :=
  match v.fieldsFrom? source ["vid", "untagged", "tagged", "exclusive"] with
  | some fs => do
    let vid ← fs.required "vid" Vid.ofValue?
    let untagged ← fs.defaulted "untagged" [] names?
    let tagged ← fs.defaulted "tagged" [] names?
    let exclusive ← fs.defaulted "exclusive" false Value.bool?
    return { vid, untagged, tagged, exclusive }
  | none => none

end VlanPlan

namespace Topology

def pvidsValue (pvids : List (String × Vid)) : Value :=
  .obj (pvids.map fun p => (p.1, p.2.toValue))

def readPvids : Fields → Option (List (String × Vid))
  | [] => some []
  | (name, v) :: fs =>
    match Vid.ofValue? v, readPvids fs with
    | some vid, some pvids => some ((name, vid) :: pvids)
    | _, _ => none

/-- Reads the VLANs of the ports into the order of the names. -/
def pvids? : Value → Option (List (String × Vid))
  | .obj fs => (readPvids fs).map fun pvids => pvids.mergeSort fun p q => !decide (q.1 < p.1)
  | _ => none

def toValue (t : Topology) : Value :=
  .obj [("ports", namesValue t.ports), ("vlans", .arr (t.vlans.map VlanPlan.toValue)),
    ("pvids", pvidsValue t.pvids)]

def read? (source : Source) (v : Value) : Option Topology :=
  match v.fieldsFrom? source ["ports", "vlans", "pvids"] with
  | some fs => do
    let defaults : Topology := {}
    let ports ← fs.defaulted "ports" defaults.ports names?
    let vlans ← fs.defaulted "vlans" defaults.vlans (Value.list? (VlanPlan.read? source))
    let pvids ← fs.defaulted "pvids" defaults.pvids pvids?
    return { ports, vlans, pvids }
  | none => none

end Topology

namespace TrafficPlan

def toValue (p : TrafficPlan) : Value :=
  .obj [("frames_per_port", Value.nat p.framesPerPort),
    ("stations_per_port", Value.nat p.stationsPerPort),
    ("broadcast_percent", Value.nat p.broadcastPercent),
    ("churn_port", Value.ofOption .str p.churnPort),
    ("churn_interval_ms", Value.nat p.churnIntervalMs), ("seed", Value.nat p.seed)]

def read? (source : Source) (v : Value) : Option TrafficPlan :=
  match v.fieldsFrom? source ["frames_per_port", "stations_per_port", "broadcast_percent", "churn_port",
    "churn_interval_ms", "seed"] with
  | some fs => do
    let defaults : TrafficPlan := {}
    let framesPerPort ← fs.defaulted "frames_per_port" defaults.framesPerPort Value.word64?
    let stationsPerPort ←
      fs.defaulted "stations_per_port" defaults.stationsPerPort (Value.nat? 65535)
    let broadcastPercent ←
      fs.defaulted "broadcast_percent" defaults.broadcastPercent (Value.nat? 255)
    let churnPort ← fs.nullable "churn_port" Value.str?
    let churnIntervalMs ← fs.defaulted "churn_interval_ms" defaults.churnIntervalMs Value.word64?
    let seed ← fs.defaulted "seed" defaults.seed Value.word64?
    return { framesPerPort, stationsPerPort, broadcastPercent, churnPort, churnIntervalMs, seed }
  | none => none

end TrafficPlan

namespace Scenario

def toValue (s : Scenario) : Value :=
  .obj [("bridge", s.bridge.toValue), ("topology", s.topology.toValue),
    ("traffic", s.traffic.toValue)]

def read? (source : Source) (v : Value) : Option Scenario :=
  match v.fieldsFrom? source ["bridge", "topology", "traffic"] with
  | some fs => do
    let bridge ← fs.defaulted "bridge" {} (BridgeConfig.read? source)
    let topology ← fs.defaulted "topology" {} (Topology.read? source)
    let traffic ← fs.defaulted "traffic" {} (TrafficPlan.read? source)
    return { bridge, topology, traffic }
  | none => none

def ofValue? : Value → Option Scenario := read? .direct

inductive LoadError where
  | file (fault : FileFault)
  | invalid (error : ScenarioError)
  deriving DecidableEq, Repr

/-- The scenario of a file, or the default one where there is none. -/
def load (file : SettingsFile) : Except LoadError Scenario :=
  match file.read? (read? .file) with
  | .error fault => .error (.file fault)
  | .ok none => .ok {}
  | .ok (some s) =>
    match s.validate with
    | .error e => .error (.invalid e)
    | .ok () => .ok s

end Scenario

end VlanBridge
