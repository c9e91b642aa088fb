import VlanBridge.Text.Number
/-!
# What can be wrong with an address or a tag

The causes for which a MAC address, a VLAN identifier, an ether type or a tag is refused, and their
wording.
-/

namespace VlanBridge.Net

open VlanBridge.Text.Number

inductive Malformed where
  | mac (text : String)
  /-- The number is no VLAN identifier; text that is no 16-bit number at all counts as 65535. -/
  | vid (number : Nat)
  | etherType (text : String)
  | truncatedTag (available : Nat)
  deriving DecidableEq, Repr

def Malformed.message : Malformed → String
  | .mac text => "invalid MAC address format: " ++ text
  | .vid number => "invalid VLAN ID: " ++ decimal number ++ " (must be 0-4094)"
  | .etherType text => "invalid ether-type: " ++ text
  | .truncatedTag available => "truncated VLAN tag: " ++ decimal available ++ " bytes available"

end VlanBridge.Net
