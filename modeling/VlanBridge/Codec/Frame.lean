import VlanBridge.Codec.Net
import VlanBridge.Frame
import VlanBridge.Text.Hex
/-!
# Frames as data

Bytes are written as pairs of hexadecimal digits. A frame is written as its bytes and its tag; it is
read from these, or from the parts of its header and its payload.
-/

namespace VlanBridge

open VlanBridge.Net VlanBridge.Data VlanBridge.Text

def bytesValue (bytes : List UInt8) : Value := .str (String.ofList (Hex.encode bytes))

def bytes? : Value → Option (List UInt8)
  | .str s => Hex.decode? s.toList
  | _ => none

theorem bytes?_bytesValue (bytes : List UInt8) : bytes? (bytesValue bytes) = some bytes := by
  simp [bytes?, bytesValue, Hex.decode_encode]

namespace Net.Tag

def toValue (t : Tag) : Value :=
  .obj [("proto", t.proto.toValue), ("pcp", Value.nat t.priority.toNat),
    ("dei", .bool t.dropEligible), ("vid", t.vid.toValue)]

/-- Reads a tag, whose priority and drop mark may be left out. -/
def ofValue? (v : Value) : Option Tag := do
  let fs ← v.record?
  let proto ← fs.required "proto" EtherType.ofValue?
  let priority ← fs.optional "pcp" 0 Value.octet?
  let dropEligible ← fs.optional "dei" false Value.bool?
  let vid ← fs.required "vid" Vid.ofValue?
  return ⟨proto, priority, dropEligible, vid⟩

end Net.Tag

namespace Frame

def toValue (f : Frame) : Value :=
  .obj [("data", bytesValue f.data), ("tag", Value.ofOption Tag.toValue f.tag)]

def infoValue (f : Frame) : Value :=
  .obj [("len", Value.nat f.data.length), ("empty", .bool f.data.isEmpty),
    ("has_header", .bool f.hasHeader), ("dst", Value.ofOption Mac.toValue f.dst?),
    ("src", Value.ofOption Mac.toValue f.src?),
    ("ethertype", Value.ofOption EtherType.toValue f.etherType?),
    ("payload", bytesValue f.payload), ("tag", Value.ofOption Tag.toValue f.tag),
    ("ipv4_dst", Value.ofOption (fun ip => .str ip.text) f.ipv4Dst?),
    ("ipv6_dst", Value.ofOption (fun ip => .str ip.text) f.ipv6Dst?)]

/-- Reads the bytes of a frame, or the parts that they are made of. -/
def data? (fs : Fields) : Option (List UInt8) := do
  match ← fs.nullable "data" bytes? with
  | some data => return data
  | none =>
    let dst ← fs.required "dst" Mac.ofValue?
    let src ← fs.required "src" Mac.ofValue?
    let etherType ← fs.required "ethertype" EtherType.ofValue?
    let payload ← fs.required "payload" bytes?
    return (ethernet dst src etherType payload).data

def ofValue? (v : Value) : Option Frame := do
  let fs ← v.record?
  let data ← data? fs
  let tag ← fs.nullable "tag" Tag.ofValue?
  return { data, tag }

end Frame

end VlanBridge
