import VlanBridge.Net.Malformed
/-!
# Ether types

The 16-bit protocol number of an Ethernet frame. Two of them announce a VLAN tag: the customer tag
of 802.1Q and the service tag of 802.1ad. The text form is hexadecimal, or the name of one of the
two standards.
-/

namespace VlanBridge.Net

open VlanBridge.Text.Number

structure EtherType where
  number : UInt16
  deriving DecidableEq, Repr, Inhabited

namespace EtherType

def ipv4 : EtherType := ⟨0x0800⟩
def ipv6 : EtherType := ⟨0x86dd⟩

/-- The customer VLAN tag. -/
def dot1q : EtherType := ⟨0x8100⟩

/-- The service VLAN tag. -/
def dot1ad : EtherType := ⟨0x88a8⟩

/-- Whether a bridge may use this as the protocol of its tags. -/
def isVlan (t : EtherType) : Bool := t == dot1q || t == dot1ad

def text (t : EtherType) : String := "0x" ++ String.ofList (padded 16 4 t.number.toNat)

/-- Reads the text form, whose letters have been put into lower case. -/
def ofLower? (cs : List Char) : Option EtherType :=
  if cs = "802.1q".toList then some dot1q
  else if cs = "802.1ad".toList then some dot1ad
  else
    let digits := match cs with
      | '0' :: 'x' :: rest => rest
      | _ => cs
    (parseSigned? 16 65535 digits).map fun n => ⟨UInt16.ofNat n⟩

def parse (s : String) : Except Malformed EtherType :=
  match ofLower? (s.toList.map Char.toLower) with
  | some t => .ok t
  | none => .error (.etherType s)

/-- The two octets in which the number is sent, high octet first. -/
def octets (t : EtherType) : List UInt8 :=
  [UInt8.ofNat (t.number.toNat / 256), UInt8.ofNat (t.number.toNat % 256)]

/-- The number that two octets hold, high octet first. -/
def ofOctets (hi lo : UInt8) : EtherType := ⟨UInt16.ofNat (hi.toNat * 256 + lo.toNat)⟩

theorem ofOctets_octets (t : EtherType) :
    ofOctets (UInt8.ofNat (t.number.toNat / 256)) (UInt8.ofNat (t.number.toNat % 256)) = t := by
  have ht : t.number.toNat < 65536 := t.number.toNat_lt
  have hi : t.number.toNat / 256 < 256 := by omega
  have lo : t.number.toNat % 256 < 256 := by omega
  have join : t.number.toNat / 256 * 256 + t.number.toNat % 256 = t.number.toNat := by omega
  simp only [ofOctets, UInt8.toNat_ofNat', Nat.mod_eq_of_lt hi, Nat.mod_eq_of_lt lo, join,
    UInt16.ofNat_toNat]

end EtherType

end VlanBridge.Net
