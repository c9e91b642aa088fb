import VlanBridge.Net.Mac
import VlanBridge.Net.Vid
import VlanBridge.Net.Ipv6
/-!
# Keys of the forwarding table

An entry is found by its VLAN and an address, which is a MAC address or an IPv4 or IPv6 group. Keys
are ordered by VLAN, then MAC before IPv4 before IPv6, then by address; `rank` numbers them in this
order.
-/

namespace VlanBridge

open VlanBridge.Net VlanBridge.Text.Number

inductive AddressKind where
  | mac
  | ipv4Multicast
  | ipv6Multicast
  deriving DecidableEq, Repr

inductive Address where
  | mac (address : Mac)
  | ipv4 (group : Ipv4)
  | ipv6 (group : Ipv6)
  deriving DecidableEq, Repr

namespace Address

def kind : Address → AddressKind
  | .mac _ => .mac
  | .ipv4 _ => .ipv4Multicast
  | .ipv6 _ => .ipv6Multicast

/-- Whether an entry under the address also reaches the multicast routers of its VLAN. -/
def isGroup : Address → Bool
  | .mac _ => false
  | .ipv4 _ | .ipv6 _ => true

def text : Address → String
  | .mac m => m.text
  | .ipv4 ip => ip.text
  | .ipv6 ip => ip.text

/-- How many addresses one kind has room for. -/
abbrev perKind : Nat := Nat.pow 2 128

/-- The place of an address in the order of addresses. -/
def rank : Address → Nat
  | .mac m => m.toNat
  | .ipv4 ip => perKind + ip.toNat
  | .ipv6 ip => 2 * perKind + ip.toNat

end Address

structure Key where
  vid : Vid
  address : Address
  deriving DecidableEq, Repr

namespace Key

def mac (vid : Vid) (m : Mac) : Key := ⟨vid, .mac m⟩

def text (k : Key) : String := k.address.text ++ " vlan " ++ k.vid.text

def rank (k : Key) : Nat := k.vid.number * (3 * Address.perKind) + k.address.rank

end Key

end VlanBridge
