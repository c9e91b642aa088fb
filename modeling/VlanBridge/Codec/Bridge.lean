import VlanBridge.Codec.Net
import VlanBridge.Config
import VlanBridge.Counters
import VlanBridge.Fdb.Entry
import VlanBridge.Port
import VlanBridge.Vlan
/-!
# What a bridge shows, as data

Sets of ports are written as ascending lists of numbers and read in any order; a number that names no
slot is refused. Enumerations are written as words.
-/

namespace VlanBridge

open VlanBridge.Net VlanBridge.Data

namespace PortSet

def toValue (s : PortSet) : Value := Value.nats s.toNats

def ofValue? (v : Value) : Option PortSet :=
  (v.list? Value.word64?).bind fun ns => (ofNats? ns).toOption

end PortSet

namespace Origin

def word : Origin → String
  | .dynamic => "dynamic"
  | .external => "external"
  | .user => "user"

def toValue (o : Origin) : Value := .str o.word

def read? (source : Source) : Value → Option Origin :=
  Value.wordFrom? source (named? [.dynamic, .external, .user] word)

def ofValue? : Value → Option Origin := read? .direct

end Origin

namespace FloodClass

def word : FloodClass → String
  | .unicast => "unicast"
  | .multicast => "multicast"
  | .broadcast => "broadcast"

def toValue (c : FloodClass) : Value := .str c.word

def read? (source : Source) : Value → Option FloodClass :=
  Value.wordFrom? source (named? [.unicast, .multicast, .broadcast] word)

def ofValue? : Value → Option FloodClass := read? .direct

end FloodClass

namespace DeviceKind

def tag : DeviceKind → String
  | .ethernet => "ethernet"
  | .loopback => "loopback"
  | .bridge => "bridge"
  | .tunnel => "tunnel"
  | .other => "other"

def toValue (k : DeviceKind) : Value := .str k.tag

def ofValue? : Value → Option DeviceKind :=
  Value.word? (named? [.ethernet, .loopback, .bridge, .tunnel, .other] tag)

end DeviceKind

namespace DropReason

def tag : DropReason → String
  | .runt => "runt"
  | .tagParse => "tag_parse"
  | .vlanNotAllowed => "vlan_not_allowed"
  | .portInactive => "port_inactive"
  | .noDestination => "no_destination"
  | .cloneFailure => "clone_failure"
  | .transmitFailed => "transmit_failed"

def all : List DropReason :=
  [.runt, .tagParse, .vlanNotAllowed, .portInactive, .noDestination, .cloneFailure, .transmitFailed]

def toValue (r : DropReason) : Value := .str r.tag

def ofValue? : Value → Option DropReason := Value.word? (named? all tag)

end DropReason

namespace Verdict

def toValue : Verdict → Value
  | .delivered n => .obj [("Delivered", Value.nat n)]
  | .trapped => .str "Trapped"
  | .dropped reason => .obj [("Dropped", reason.toValue)]

def ofValue? : Value → Option Verdict
  | .str "Trapped" => some .trapped
  | .obj [("Trapped", .null)] => some .trapped
  | .obj [("Delivered", v)] => v.word64?.map .delivered
  | .obj [("Dropped", v)] => (DropReason.ofValue? v).map .dropped
  | _ => none

end Verdict

namespace IngressDefaults

def toValue (d : IngressDefaults) : Value :=
  .obj [("vlan_filtering", .bool d.vlanFiltering), ("learning", .bool d.learning)]

/-- Reads the treatment of incoming frames; what is left out has its default. -/
def ofValue? (v : Value) : Option IngressDefaults :=
  match v.fields? ["vlan_filtering", "learning"] with
  | some fs =>
    match fs.defaulted "vlan_filtering" true Value.bool?, fs.defaulted "learning" true Value.bool?
    with
    | some vlanFiltering, some learning => some ⟨vlanFiltering, learning⟩
    | _, _ => none
  | none => none

theorem ofValue?_toValue (d : IngressDefaults) : ofValue? d.toValue = some d := rfl

end IngressDefaults

namespace Handle

def toValue (h : Handle) : Value :=
  .obj [("index", Value.nat h.index), ("generation", Value.nat h.generation)]

def ofValue? (v : Value) : Option Handle :=
  match v.fields? ["index", "generation"] with
  | some fs =>
    match fs.required "index" Value.word64?, fs.required "generation" Value.word64? with
    | some index, some generation => some ⟨index, generation⟩
    | _, _ => none
  | none => none

end Handle

namespace PortInfo

def toValue (p : PortInfo) : Value :=
  .obj [("index", Value.nat p.index), ("generation", Value.nat p.generation),
    ("name", .str p.name), ("pvid", p.pvid.toValue), ("ingress", p.ingress.toValue)]

def ofValue? (v : Value) : Option PortInfo :=
  match v.fields? ["index", "generation", "name", "pvid", "ingress"] with
  | some fs => do
    let index ← fs.required "index" Value.word64?
    let generation ← fs.required "generation" Value.word64?
    let name ← fs.required "name" Value.str?
    let pvid ← fs.required "pvid" Vid.ofValue?
    let ingress ← fs.required "ingress" IngressDefaults.ofValue?
    return ⟨index, generation, name, pvid, ingress⟩
  | none => none

end PortInfo

namespace Vlan

def toValue (v : Vlan) : Value :=
  .obj [("vid", v.vid.toValue), ("members", v.members.toValue), ("tagged", v.tagged.toValue),
    ("unicast_flood", v.unicastFlood.toValue), ("multicast_flood", v.multicastFlood.toValue),
    ("broadcast_flood", v.broadcastFlood.toValue), ("routers", v.routers.toValue),
    ("learning", .bool v.learning)]

def ofValue? (v : Value) : Option Vlan :=
  match v.fields? ["vid", "members", "tagged", "unicast_flood", "multicast_flood",
    "broadcast_flood", "routers", "learning"] with
  | some fs => do
    let vid ← fs.required "vid" Vid.ofValue?
    let members ← fs.required "members" PortSet.ofValue?
    let tagged ← fs.required "tagged" PortSet.ofValue?
    let unicastFlood ← fs.required "unicast_flood" PortSet.ofValue?
    let multicastFlood ← fs.required "multicast_flood" PortSet.ofValue?
    let broadcastFlood ← fs.required "broadcast_flood" PortSet.ofValue?
    let routers ← fs.required "routers" PortSet.ofValue?
    let learning ← fs.required "learning" Value.bool?
    return { vid, members, tagged, unicastFlood, multicastFlood, broadcastFlood, routers, learning }
  | none => none

end Vlan

/-- An entry as data, without its time. -/
def Entry.toValue (e : Entry) : Value :=
  .obj [("key", e.key.toValue), ("origin", e.origin.toValue), ("ports", e.ports.toValue)]

namespace EntryRecord

def toValue (e : EntryRecord) : Value :=
  .obj [("key", e.key.toValue), ("ports", e.ports.toValue), ("origin", e.origin.toValue),
    ("idle_ms", Value.nat e.idleMs)]

def read? (source : Source) (v : Value) : Option EntryRecord :=
  match v.fieldsFrom? source ["key", "ports", "origin", "idle_ms"] with
  | some fs => do
    let key ← fs.required "key" (Key.read? source)
    let ports ← fs.required "ports" PortSet.ofValue?
    let origin ← fs.required "origin" (Origin.read? source)
    let idleMs ← fs.required "idle_ms" Value.word64?
    return ⟨key, ports, origin, idleMs⟩
  | none => none

/-- Reads what is shown of an entry from data of its own. -/
def ofValue? : Value → Option EntryRecord := read? .direct

end EntryRecord

namespace FlushFilter

def toValue (f : FlushFilter) : Value :=
  .obj [("port", Value.ofOption Value.nat f.port), ("vid", Value.ofOption Vid.toValue f.vid),
    ("origin", Value.ofOption Origin.toValue f.origin), ("aged_only", .bool f.agedOnly)]

def ofValue? (v : Value) : Option FlushFilter :=
  match v.fields? ["port", "vid", "origin", "aged_only"] with
  | some fs => do
    let port ← fs.nullable "port" Value.word64?
    let vid ← fs.nullable "vid" Vid.ofValue?
    let origin ← fs.nullable "origin" Origin.ofValue?
    let agedOnly ← fs.defaulted "aged_only" false Value.bool?
    return { port, vid, origin, agedOnly }
  | none => none

end FlushFilter

namespace Counters

def toValue (cs : Counters) : Value :=
  .obj (Counter.all.map fun c => (c.name, Value.nat (cs.get c).toNat))

/-- The counters that have counted something, as data. -/
def nonZeroValue (cs : Counters) : Value :=
  .obj ((Counter.all.filter (cs.get · != 0)).map fun c => (c.name, Value.nat (cs.get c).toNat))

/-- Reads the counters in turn into `cs`; each must be there. -/
def readInto (fs : Fields) : List Counter → Counters → Option Counters
  | [], cs => some cs
  | c :: rest, cs =>
    match fs.required c.name Value.word64? with
    | some n => readInto fs rest (cs.add c (UInt64.ofNat n))
    | none => none

def ofValue? (v : Value) : Option Counters :=
  (v.fields? (Counter.all.map (·.name))).bind fun fs => readInto fs Counter.all {}

end Counters

namespace BridgeConfig

def toValue (c : BridgeConfig) : Value :=
  .obj [("name", .str c.name), ("ageing_time_secs", Value.nat c.ageingSecs),
    ("vlan_protocol", c.vlanProtocol.toValue), ("flush_on_port_del", .bool c.flushOnPortDel),
    ("default_learning", .bool c.defaultLearning)]

/-- Reads the settings of a bridge; what is left out has its default. -/
def read? (source : Source) (v : Value) : Option BridgeConfig :=
  match v.fieldsFrom? source ["name", "ageing_time_secs", "vlan_protocol", "flush_on_port_del",
    "default_learning"] with
  | some fs => do
    let defaults : BridgeConfig := {}
    let name ← fs.defaulted "name" defaults.name Value.str?
    let ageingSecs ← fs.defaulted "ageing_time_secs" defaults.ageingSecs Value.word64?
    let vlanProtocol ← fs.defaulted "vlan_protocol" defaults.vlanProtocol EtherType.ofValue?
    let flushOnPortDel ← fs.defaulted "flush_on_port_del" defaults.flushOnPortDel Value.bool?
    let defaultLearning ← fs.defaulted "default_learning" defaults.defaultLearning Value.bool?
    return { name, ageingSecs, vlanProtocol, flushOnPortDel, defaultLearning }
  | none => none

/-- Reads the settings of a bridge from data of their own. -/
def ofValue? : Value → Option BridgeConfig := read? .direct

end BridgeConfig

end VlanBridge
