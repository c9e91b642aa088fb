import VlanBridge.Bridge.Basic
/-!
# Making, deleting and setting up VLANs

Only installed ports can join a VLAN. Ports whose frames went to a deleted VLAN by default go back
to VLAN 0, and the forwarding entries of the VLAN are flushed.
-/

namespace VlanBridge.Bridge

open VlanBridge.Net

def withVlans (b : Bridge) (changed : Except BridgeError VlanDb) : Outcome Unit :=
  match changed with
  | .ok vlans => ({ b with vlans }, .ok ())
  | .error e => (b, .error e)

def withPort (b : Bridge) (n : Nat) (change : PortIndex → Except BridgeError VlanDb) :
    Outcome Unit :=
  match b.ports.require n with
  | .error e => (b, .error e)
  | .ok p => b.withVlans (change p.index)

def vlanAdd (b : Bridge) (vid : Vid) : Outcome Unit :=
  b.withVlans (b.vlans.create vid b.config.defaultLearning)

def vlanDel (b : Bridge) (vid : Vid) : Outcome Unit :=
  match b.vlans.delete vid with
  | .error e => (b, .error e)
  | .ok (vlans, gone) =>
    let ports := b.ports.mapPorts fun p => if p.pvid = vid then { p with pvid := Vid.zero } else p
    let (s, flushed) := b.toLearning.flushPort { vid := some vid } none b.clock
    let s := s.tally .flushed flushed.length
    (({ b with toLearning := s, ports, vlans } : Bridge).retire (.vlan gone.serial), .ok ())

/-- Makes a port a member of a VLAN, or changes its tagging if it is one. -/
def vlanAttach (b : Bridge) (vid : Vid) (n : Nat) (tagged : Bool) : Outcome Unit :=
  b.withPort n fun i => b.vlans.attach vid i tagged

def vlanDetach (b : Bridge) (vid : Vid) (n : Nat) : Outcome Unit :=
  match b.ports.require n with
  | .error e => (b, .error e)
  | .ok p =>
    let (vlans, result) := b.vlans.detach vid p.index
    ({ b with vlans }, result)

def vlanSetLearning (b : Bridge) (vid : Vid) (enabled : Bool) : Outcome Unit :=
  b.withVlans (b.vlans.setLearning vid enabled)

/-- Has frames of a class flooded to a port, or not. -/
def vlanSetFlood (b : Bridge) (vid : Vid) (c : FloodClass) (n : Nat) (enabled : Bool) :
    Outcome Unit :=
  b.withPort n fun i => b.vlans.setFlood vid c i enabled

/-- Puts a port among the router ports of a VLAN or takes it out. -/
def vlanSetRouter (b : Bridge) (vid : Vid) (n : Nat) (enabled : Bool) : Outcome Unit :=
  b.withPort n fun i => b.vlans.setRouter vid i enabled

end VlanBridge.Bridge
