import VlanBridge.Codec.Net
import VlanBridge.Traffic
/-!
# Traffic as data

The traffic on a port is read, the report of its worker is written.
-/

namespace VlanBridge.Traffic

open VlanBridge.Net VlanBridge.Data

namespace PortTraffic

def ofValue? (v : Value) : Option PortTraffic := do
  let fs ← v.record?
  let port ← fs.required "port" Value.str?
  let ordinal ← fs.required "ordinal" (Value.nat? 65535)
  let frames ← fs.required "frames" Value.word64?
  let stations ← fs.required "stations" (Value.nat? 65535)
  let peers ← fs.required "peers" (Value.list? (Value.nat? 65535))
  let taggedVlans ← fs.optional "tagged_vlans" [] (Value.list? Vid.ofValue?)
  let broadcastPercent ← fs.required "broadcast_percent" (Value.nat? 255)
  return { port, ordinal, frames, stations, peers, taggedVlans, broadcastPercent }

end PortTraffic

namespace WorkerReport

/-- The reasons in the order of their texts. -/
def reasons : List DropReason :=
  [.cloneFailure, .noDestination, .portInactive, .runt, .tagParse, .transmitFailed, .vlanNotAllowed]

theorem mem_reasons (r : DropReason) : r ∈ reasons := by
  cases r <;> decide

/-- A worker's report as data. Only reasons for which frames were dropped are shown. -/
def toValue (r : WorkerReport) : Value :=
  .obj [("port", .str r.port), ("sent", Value.nat r.sent), ("delivered", Value.nat r.delivered),
    ("trapped", Value.nat r.trapped),
    ("dropped", .obj ((reasons.filter (0 < r.dropped.count ·)).map fun reason =>
      (reason.text, Value.nat (r.dropped.count reason))))]

end WorkerReport

end VlanBridge.Traffic
