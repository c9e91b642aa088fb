import VlanBridge.PortSet
import VlanBridge.Net.Vid
import VlanBridge.Network
/-!
# Ports

A port occupies a slot. Its generation tells it from earlier ports of the same slot, and a handle
names slot and generation, so a handle to a deleted port never means a later one.

Generations are counted without a bound. A counter of 64 bits shows the same until a slot has been
filled 2^64 times.
-/

namespace VlanBridge

open VlanBridge.Net VlanBridge.Text.Number

structure IngressDefaults where
  /-- Drops frames of VLANs that the port is no member of. -/
  vlanFiltering : Bool := true
  learning : Bool := true
  deriving DecidableEq, Repr, Inhabited

structure Handle where
  index : Nat
  generation : Nat
  deriving DecidableEq, Repr

def Handle.text (h : Handle) : String := decimal h.index ++ "#" ++ decimal h.generation

inductive Endpoint where
  /-- Up into the local stack. -/
  | localStack
  | device (id : DeviceId)
  deriving DecidableEq, Repr

structure Port where
  index : PortIndex
  generation : Nat
  name : String
  endpoint : Endpoint
  /-- The VLAN of frames that come in without one. -/
  pvid : Vid := Vid.zero
  ingress : IngressDefaults := {}
  deriving DecidableEq, Repr

structure PortInfo where
  index : Nat
  generation : Nat
  name : String
  pvid : Vid
  ingress : IngressDefaults
  deriving DecidableEq, Repr

namespace Port

def handle (p : Port) : Handle := ⟨p.index.val, p.generation⟩

/-- The device of a port; the local port has none. -/
def device? (p : Port) : Option DeviceId :=
  match p.endpoint with
  | .localStack => none
  | .device id => some id

/-- The slots that a frame from this port may go to: all but its own. -/
def egress (p : Port) : PortSet := PortSet.full.erase p.index

def info (p : Port) : PortInfo := ⟨p.index.val, p.generation, p.name, p.pvid, p.ingress⟩

theorem mem_egress {p : Port} {i : PortIndex} : i ∈ p.egress ↔ i ≠ p.index := by
  simp [egress]

end Port

end VlanBridge
