import VlanBridge.Codec.Bridge
import VlanBridge.Codec.Frame
/-!
# Devices as data

What is left out of a device has its default.
-/

namespace VlanBridge

open VlanBridge.Net VlanBridge.Data

namespace Device

/-- Reads a device that has not sent anything yet. -/
def ofValue? (v : Value) : Option Device := do
  let fs ← v.record?
  let name ← fs.required "name" Value.str?
  let mac ← fs.required "mac" Mac.ofValue?
  let kind ← fs.optional "kind" .ethernet DeviceKind.ofValue?
  let master ← fs.nullable "master" Value.str?
  let bridgingAllowed ← fs.optional "bridging" true Value.bool?
  let counting ← fs.optional "counting" false Value.bool?
  return { name, mac, kind, master, bridgingAllowed, captures := !counting }

def infoValue (d : Device) : Value :=
  .obj [("name", .str d.name), ("kind", d.kind.toValue), ("mac", d.mac.toValue),
    ("has_master", .bool d.hasMaster), ("master", Value.ofOption .str d.master),
    ("bridging_allowed", .bool d.bridgingAllowed), ("tx_frames", Value.nat d.txFrames.toNat),
    ("tx_rejected", Value.nat d.txRejected.toNat)]

end Device

end VlanBridge
