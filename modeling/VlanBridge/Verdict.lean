/-!
# What becomes of a frame

A received frame ends delivered to a number of ports, taken by the control-plane trap, or dropped
for one of seven reasons. Each reason has a text of its own.
-/

namespace VlanBridge

inductive DropReason where
  /-- Shorter than an Ethernet header. -/
  | runt
  | tagParse
  /-- The VLAN is unknown, or the ingress port is no member of it. -/
  | vlanNotAllowed
  /-- The ingress port is unknown, replaced or being deleted. -/
  | portInactive
  | noDestination
  /-- There was no memory for the copy that a port should have sent. -/
  | cloneFailure
  | transmitFailed
  deriving DecidableEq, Repr

def DropReason.text : DropReason → String
  | .runt => "runt"
  | .tagParse => "tag-parse"
  | .vlanNotAllowed => "vlan-not-allowed"
  | .portInactive => "port-inactive"
  | .noDestination => "no-destination"
  | .cloneFailure => "clone-failure"
  | .transmitFailed => "transmit-failed"

theorem DropReason.text_injective {r s : DropReason} (h : r.text = s.text) : r = s := by
  cases r <;> cases s <;> first | rfl | exact absurd h (by decide)

inductive Verdict where
  | delivered (ports : Nat)
  | trapped
  | dropped (reason : DropReason)
  deriving DecidableEq, Repr

end VlanBridge
