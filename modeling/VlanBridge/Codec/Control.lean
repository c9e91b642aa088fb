import VlanBridge.Codec.Bridge
import VlanBridge.Control
/-!
# The control channel as data

A request is a record whose field `op` names it, a response one whose field `result` does. All
fields are written; of those read, some have defaults.
-/

namespace VlanBridge

open VlanBridge.Net VlanBridge.Data

namespace Request

def toValue : Request → Value
  | .portAdd device defaults =>
    .obj [("op", .str "port_add"), ("device", .str device), ("defaults", defaults.toValue)]
  | .portDel device => .obj [("op", .str "port_del"), ("device", .str device)]
  | .portSetPvid port vid =>
    .obj [("op", .str "port_set_pvid"), ("port", .str port), ("vid", vid.toValue)]
  | .portSetIngress port defaults =>
    .obj [("op", .str "port_set_ingress"), ("port", .str port), ("defaults", defaults.toValue)]
  | .portList => .obj [("op", .str "port_list")]
  | .vlanAdd vid => .obj [("op", .str "vlan_add"), ("vid", vid.toValue)]
  | .vlanDel vid => .obj [("op", .str "vlan_del"), ("vid", vid.toValue)]
  | .vlanAttach vid port tagged =>
    .obj [("op", .str "vlan_attach"), ("vid", vid.toValue), ("port", .str port),
      ("tagged", .bool tagged)]
  | .vlanDetach vid port =>
    .obj [("op", .str "vlan_detach"), ("vid", vid.toValue), ("port", .str port)]
  | .vlanSetLearning vid enabled =>
    .obj [("op", .str "vlan_set_learning"), ("vid", vid.toValue), ("enabled", .bool enabled)]
  | .vlanSetFlood vid port c enabled =>
    .obj [("op", .str "vlan_set_flood"), ("vid", vid.toValue), ("port", .str port),
      ("class", c.toValue), ("enabled", .bool enabled)]
  | .vlanSetRouter vid port enabled =>
    .obj [("op", .str "vlan_set_router"), ("vid", vid.toValue), ("port", .str port),
      ("enabled", .bool enabled)]
  | .vlanList => .obj [("op", .str "vlan_list")]
  | .fdbFlush port vid origin agedOnly =>
    .obj [("op", .str "fdb_flush"), ("port", Value.ofOption .str port),
      ("vid", Value.ofOption Vid.toValue vid), ("origin", Value.ofOption Origin.toValue origin),
      ("aged_only", .bool agedOnly)]
  | .fdbAdd key ports origin =>
    .obj [("op", .str "fdb_add"), ("key", key.toValue), ("ports", .arr (ports.map .str)),
      ("origin", origin.toValue)]
  | .fdbDel key => .obj [("op", .str "fdb_del"), ("key", key.toValue)]
  | .fdbDump => .obj [("op", .str "fdb_dump")]
  | .counters => .obj [("op", .str "counters")]

/-- The names of the fields of the request with a name, in order. -/
def fieldNames : String → List String
  | "port_add" => ["device", "defaults"]
  | "port_del" => ["device"]
  | "port_set_pvid" => ["port", "vid"]
  | "port_set_ingress" => ["port", "defaults"]
  | "vlan_add" | "vlan_del" => ["vid"]
  | "vlan_attach" => ["vid", "port", "tagged"]
  | "vlan_detach" => ["vid", "port"]
  | "vlan_set_learning" => ["vid", "enabled"]
  | "vlan_set_flood" => ["vid", "port", "class", "enabled"]
  | "vlan_set_router" => ["vid", "port", "enabled"]
  | "fdb_flush" => ["port", "vid", "origin", "aged_only"]
  | "fdb_add" => ["key", "ports", "origin"]
  | "fdb_del" => ["key"]
  | _ => []

def ofFields? (name : String) (fs : Fields) : Option Request :=
  match name with
  | "port_add" => do
    let device ← fs.required "device" Value.str?
    let defaults ← fs.defaulted "defaults" {} IngressDefaults.ofValue?
    return .portAdd device defaults
  | "port_del" => (fs.required "device" Value.str?).map .portDel
  | "port_set_pvid" => do
    let port ← fs.required "port" Value.str?
    let vid ← fs.required "vid" Vid.ofValue?
    return .portSetPvid port vid
  | "port_set_ingress" => do
    let port ← fs.required "port" Value.str?
    let defaults ← fs.required "defaults" IngressDefaults.ofValue?
    return .portSetIngress port defaults
  | "port_list" => some .portList
  | "vlan_add" => (fs.required "vid" Vid.ofValue?).map .vlanAdd
  | "vlan_del" => (fs.required "vid" Vid.ofValue?).map .vlanDel
  | "vlan_attach" => do
    let vid ← fs.required "vid" Vid.ofValue?
    let port ← fs.required "port" Value.str?
    let tagged ← fs.defaulted "tagged" false Value.bool?
    return .vlanAttach vid port tagged
  | "vlan_detach" => do
    let vid ← fs.required "vid" Vid.ofValue?
    let port ← fs.required "port" Value.str?
    return .vlanDetach vid port
  | "vlan_set_learning" => do
    let vid ← fs.required "vid" Vid.ofValue?
    let enabled ← fs.required "enabled" Value.bool?
    return .vlanSetLearning vid enabled
  | "vlan_set_flood" => do
    let vid ← fs.required "vid" Vid.ofValue?
    let port ← fs.required "port" Value.str?
    let c ← fs.required "class" (FloodClass.read? .tagged)
    let enabled ← fs.required "enabled" Value.bool?
    return .vlanSetFlood vid port c enabled
  | "vlan_set_router" => do
    let vid ← fs.required "vid" Vid.ofValue?
    let port ← fs.required "port" Value.str?
    let enabled ← fs.required "enabled" Value.bool?
    return .vlanSetRouter vid port enabled
  | "vlan_list" => some .vlanList
  | "fdb_flush" => do
    let port ← fs.nullable "port" Value.str?
    let vid ← fs.nullable "vid" Vid.ofValue?
    let origin ← fs.nullable "origin" (Origin.read? .tagged)
    let agedOnly ← fs.defaulted "aged_only" false Value.bool?
    return .fdbFlush port vid origin agedOnly
  | "fdb_add" => do
    let key ← fs.required "key" (Key.read? .tagged)
    let ports ← fs.required "ports" (Value.list? Value.str?)
    let origin ← fs.defaulted "origin" .user (Origin.read? .tagged)
    return .fdbAdd key ports origin
  | "fdb_del" => (fs.required "key" (Key.read? .tagged)).map .fdbDel
  | "fdb_dump" => some .fdbDump
  | "counters" => some .counters
  | _ => none

def ofValue? (v : Value) : Option Request :=
  match v.tagged? "op" with
  | some (name, rest) => (rest.fields? (fieldNames name)).bind (ofFields? name)
  | none => none

end Request

namespace Response

def toValue : Response → Value
  | .done => .obj [("result", .str "ok")]
  | .portAdded port => .obj [("result", .str "port_added"), ("port", port.toValue)]
  | .ports infos => .obj [("result", .str "ports"), ("ports", .arr (infos.map (·.toValue)))]
  | .vlans records => .obj [("result", .str "vlans"), ("vlans", .arr (records.map (·.toValue)))]
  | .flushed count => .obj [("result", .str "flushed"), ("count", Value.nat count)]
  | .fdb entries => .obj [("result", .str "fdb"), ("entries", .arr (entries.map (·.toValue)))]
  | .counters values => .obj [("result", .str "counters"), ("counters", values.toValue)]

/-- The names of the fields of the response with a name. -/
def fieldNames : String → List String
  | "port_added" => ["port"]
  | "ports" => ["ports"]
  | "vlans" => ["vlans"]
  | "flushed" => ["count"]
  | "fdb" => ["entries"]
  | "counters" => ["counters"]
  | _ => []

def ofFields? (name : String) (fs : Fields) : Option Response :=
  match name with
  | "ok" => some .done
  | "port_added" => (fs.required "port" Handle.ofValue?).map .portAdded
  | "ports" => (fs.required "ports" (Value.list? PortInfo.ofValue?)).map .ports
  | "vlans" => (fs.required "vlans" (Value.list? Vlan.ofValue?)).map .vlans
  | "flushed" => (fs.required "count" Value.word64?).map .flushed
  | "fdb" => (fs.required "entries" (Value.list? (EntryRecord.read? .tagged))).map .fdb
  | "counters" => (fs.required "counters" Counters.ofValue?).map .counters
  | _ => none

def ofValue? (v : Value) : Option Response :=
  match v.tagged? "result" with
  | some (name, rest) => (rest.fields? (fieldNames name)).bind (ofFields? name)
  | none => none

end Response

end VlanBridge
