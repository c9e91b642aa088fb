import VlanBridge.Net.Mac
import VlanBridge.Net.Tag
import VlanBridge.Net.Ipv6
/-!
# Ethernet frames

A frame is a row of octets together with the outermost VLAN tag when that has been taken out of the
row. The octets start with destination, source and ether type. `wire` puts the tag back in front of
the ether type, and `untag` takes one out: each undoes the other on frames with a full header.
-/

namespace VlanBridge

open VlanBridge.Net

/-- A frame: its octets, and the tag that has been taken out of them. -/
structure Frame where
  data : List UInt8
  tag : Option Tag := none
  deriving DecidableEq, Repr

namespace Frame

/-- The length of an untagged header. -/
abbrev headerLength : Nat := 14

/-- Where the ether type stands: behind the two addresses. -/
abbrev etherTypeOffset : Nat := 12

abbrev tagLength : Nat := 4

/-- An untagged frame from its header and payload. -/
def ethernet (dst src : Mac) (etherType : EtherType) (payload : List UInt8) : Frame :=
  { data := dst.octets ++ src.octets ++ etherType.octets ++ payload }

def hasHeader (f : Frame) : Bool := headerLength ≤ f.data.length

/-- The destination address, in the first six octets. -/
def dst? (f : Frame) : Option Mac := Mac.ofOctets? f.data

def src? (f : Frame) : Option Mac := Mac.ofOctets? (f.data.drop 6)

def etherType? (f : Frame) : Option EtherType :=
  match f.data.drop etherTypeOffset with
  | hi :: lo :: _ => some (EtherType.ofOctets hi lo)
  | _ => none

def payload (f : Frame) : List UInt8 := f.data.drop headerLength

/-- The same octets under another tag, or under none. -/
def withTag (f : Frame) (tag : Option Tag) : Frame := { f with tag := tag }

/-- The octets without the four that a tag takes. -/
def dropTag (data : List UInt8) : List UInt8 :=
  data.take etherTypeOffset ++ data.drop (etherTypeOffset + tagLength)

/-- Takes a tag of protocol `proto` out of the octets; `none` if they do not hold one. A tag is
refused if it is cut short or not followed by an ether type, or if its identifier is reserved. -/
def untag (f : Frame) (proto : EtherType) : Except Malformed (Option Frame) :=
  if f.etherType? = some proto then
    match Tag.ofOctets proto f.payload with
    | .error e => .error e
    | .ok tag =>
      if f.data.length < headerLength + tagLength then
        .error (.truncatedTag (f.data.length - headerLength))
      else .ok (some { data := dropTag f.data, tag := some tag })
  else .ok none

/-- The octets as sent, the tag included. -/
def wire (f : Frame) : List UInt8 :=
  match f.tag with
  | some tag => f.data.take etherTypeOffset ++ tag.octets ++ f.data.drop etherTypeOffset
  | none => f.data

def ipv4Dst? (f : Frame) : Option Ipv4 :=
  if f.etherType? = some EtherType.ipv4 then Ipv4.ofOctets? ((f.payload.drop 16).take 4) else none

def ipv6Dst? (f : Frame) : Option Ipv6 :=
  if f.etherType? = some EtherType.ipv6 then Ipv6.ofOctets? ((f.payload.drop 24).take 16) else none

/-! ### Small facts -/

theorem hasHeader_iff {f : Frame} : f.hasHeader = true ↔ 14 ≤ f.data.length := by
  simp [hasHeader]

theorem wire_length (f : Frame) :
    f.wire.length = f.data.length + (if f.tag.isSome then tagLength else 0) := by
  unfold wire
  cases f.tag with
  | none => rfl
  | some tag =>
    simp only [List.length_append, List.length_take, List.length_drop, Tag.octets_length,
      Option.isSome_some, if_true, etherTypeOffset, tagLength]
    omega

end Frame

end VlanBridge
