import VlanBridge.Bridge.Operation
import VlanBridge.Bridge.TrapRule
import VlanBridge.Codec.Device
/-!
# Operations as data

An operation is named by a word and reads what it needs from fields; adding a port is not among
them, because a device has no name of its own here. Its answer is written in the plainest form.
-/

namespace VlanBridge

open VlanBridge.Net VlanBridge.Data

namespace LearnOutcome

def word : LearnOutcome → String
  | .ignored => "Ignored"
  | .static => "Static"
  | .learned => "Learned"
  | .refreshed => "Refreshed"
  | .moved => "Moved"

def toValue (o : LearnOutcome) : Value := .str o.word

end LearnOutcome

namespace TrapRule

def ofFields? (fs : Fields) : Option TrapRule := do
  let etherType ← fs.nullable "ethertype" EtherType.ofValue?
  let dst ← fs.nullable "dst" Value.str?
  let ingress ← fs.nullable "ingress" Value.word64?
  let vid ← fs.nullable "vid" Vid.ofValue?
  return { etherType, dst, ingress, vid }

end TrapRule

namespace Operation

/-- The timer beside which operations that are given as data are done: thirty years of 365 days are the
longest time that it can wait. -/
def scriptTimer : Timer := { longest := some (30 * 365 * 86400 * 1000000000) }

/-- How the operation with a name is read from its fields. -/
def reader? (name : String) : Option (Fields → Option Operation) :=
  let vid := fun fs : Fields => fs.required "vid" Vid.ofValue?
  let port := fun fs : Fields => fs.required "port" Value.word64?
  let enabled := fun fs : Fields => fs.required "enabled" Value.bool?
  let key := fun fs : Fields => fs.required "key" Key.ofValue?
  match name with
  | "port_del" => some fun fs => return .portDel (← port fs)
  | "port_set_pvid" => some fun fs => return .portSetPvid (← port fs) (← vid fs)
  | "port_set_ingress" => some fun fs => do
    return .portSetIngress (← port fs) (← fs.required "defaults" IngressDefaults.ofValue?)
  | "vlan_add" => some fun fs => return .vlanAdd (← vid fs)
  | "vlan_del" => some fun fs => return .vlanDel (← vid fs)
  | "vlan_attach" => some fun fs => do
    return .vlanAttach (← vid fs) (← port fs) (← fs.optional "tagged" false Value.bool?)
  | "vlan_detach" => some fun fs => return .vlanDetach (← vid fs) (← port fs)
  | "vlan_set_learning" => some fun fs => return .vlanSetLearning (← vid fs) (← enabled fs)
  | "vlan_set_flood" => some fun fs => do
    let c ← fs.required "class" FloodClass.ofValue?
    return .vlanSetFlood (← vid fs) c (← port fs) (← enabled fs)
  | "vlan_set_router" => some fun fs => do
    return .vlanSetRouter (← vid fs) (← port fs) (← enabled fs)
  | "fdb_flush" => some fun fs => do
    return .fdbFlush (← fs.required "filter" FlushFilter.ofValue?)
  | "fdb_add" => some fun fs => do
    let ports ← fs.required "ports" PortSet.ofValue?
    return .fdbAdd (← key fs) ports (← fs.required "origin" Origin.ofValue?)
  | "fdb_del" => some fun fs => return .fdbDel (← key fs)
  | "learn" => some fun fs => do
    return .learn (← fs.required "mac" Mac.ofValue?) (← vid fs) (← port fs)
  | "reclaim" => some fun _ => some .reclaim
  | "quiesce" => some fun _ => some .quiesce
  | "start_ageing" => some fun _ => some (.startAgeing (some scriptTimer))
  | "start_ageing_outside" => some fun _ => some (.startAgeing none)
  | "sleep" => some fun fs => return .sleep (← fs.required "ms" Value.word64?)
  | "shutdown" => some fun _ => some .shutdown
  | _ => none

/-- Whether an operation lets time go by, so that it cannot be done while a frame is on its way. -/
def takesTime : Operation → Bool
  | .sleep _ | .shutdown => true
  | _ => false

def Answer.toValue : Answer → Value
  | .done => .null
  | .handle h => .obj [("handle", h.toValue), ("text", .str h.text)]
  | .count n => Value.nat n
  | .flag b => .bool b
  | .learned outcome => outcome.toValue

end Operation

/-- What can be seen of a bridge at a glance, as data. -/
def Bridge.infoValue (b : Bridge) : Value :=
  .obj [("name", .str b.config.name), ("config", b.config.toValue),
    ("protocol", b.config.vlanProtocol.toValue), ("local", localHandle.toValue),
    ("active", b.ports.active.toValue), ("fdb_len", Value.nat b.fdb.size),
    ("counters", b.counters.toValue), ("dropped", Value.nat b.counters.dropped.toNat)]

end VlanBridge
