import VlanBridge.Bridge.Basic
/-!
# Adding, deleting and setting up ports

A device that becomes a port gets the bridge as its master and joins VLAN 0 untagged. Deleting a
port takes it out of every VLAN and out of the forwarding entries (dynamic ones only if the settings
say so), releases the device, and leaves the slot busy until no frame in flight can refer to it.
-/

namespace VlanBridge.Bridge

open VlanBridge.Net

/-- Queues the release of a port that has been taken out of the table. -/
def retirePort (b : Bridge) (p : Port) : Bridge := b.retire (.slot p.index)

/-- Puts an enslaved device's port into VLAN 0 and lets frames be sent to it. -/
def joinDefaultVlan (b : Bridge) (i : PortIndex) : Bridge :=
  { b with
    vlans := b.vlans.modify Vid.zero (·.attach i false)
    ports := b.ports.activate i }

def portAdd (b : Bridge) (id : DeviceId) (ingress : IngressDefaults) : Outcome Handle :=
  match b.network.device? id with
  | none => (b, .error (.unknownDevice (Text.Number.decimal id)))
  | some d =>
    match b.ports.add d id ingress b.config.name with
    | .error e => (b, .error e)
    | .ok (ports, p) =>
      match d.enslave b.config.name with
      | .error e =>
        (({ b with ports := ports.clear p.index } : Bridge).retirePort p, .error (.enslaveRefused e))
      | .ok enslaved =>
        let b : Bridge := { b with ports, network := b.network.modifyDevice id fun _ => enslaved }
        (b.joinDefaultVlan p.index, .ok p.handle)

/-- Takes a deleted port out of the forwarding entries that may not keep it. -/
def flushDeletedPort (b : Bridge) (i : PortIndex) : Bridge :=
  if b.config.flushOnPortDel then
    let (s, gone) := b.toLearning.flushPort (FlushFilter.onPort i.val) (some i) b.clock
    b.withLearning (s.tally .flushed gone.length)
  else
    let (s, external) := b.toLearning.flushPort { origin := some .external } (some i) b.clock
    let (s, user) := s.flushPort { origin := some .user } (some i) b.clock
    b.withLearning (s.tally .flushed (external.length + user.length))

def releaseDevice (b : Bridge) (p : Port) : Bridge :=
  match p.device? with
  | some id => { b with network := b.network.modifyDevice id Device.release }
  | none => b

def portDel (b : Bridge) (n : Nat) : Outcome Unit :=
  match b.ports.remove n with
  | .error e => (b, .error e)
  | .ok (ports, p) =>
    let b : Bridge := { b with ports, vlans := (b.vlans.detachAll p.index).1 }
    (((b.flushDeletedPort p.index).releaseDevice p).retirePort p, .ok ())

def portFind (b : Bridge) (deviceName : String) : Except BridgeError PortIndex :=
  b.ports.find deviceName

/-- The slot of the port with a name; the bridge's own name is the local port's. -/
def portIndex (b : Bridge) (name : String) : Except BridgeError PortIndex :=
  if name = b.config.name then .ok localPort
  else match b.ports.findByName name with
    | some p => .ok p.index
    | none => .error (.unknownPortName name)

def portHandle (b : Bridge) (n : Nat) : Except BridgeError Handle :=
  match b.ports.require n with
  | .ok p => .ok p.handle
  | .error e => .error e

/-- Sets the VLAN of frames that come in without one. -/
def portSetPvid (b : Bridge) (n : Nat) (vid : Vid) : Outcome Unit :=
  match b.ports.require n, b.vlans.require vid with
  | .error e, _ => (b, .error e)
  | .ok _, .error e => (b, .error e)
  | .ok p, .ok _ => ({ b with ports := b.ports.modify p.index ({ · with pvid := vid }) }, .ok ())

/-- Sets how a port treats the frames that come in. -/
def portSetIngress (b : Bridge) (n : Nat) (ingress : IngressDefaults) : Outcome Unit :=
  match b.ports.require n with
  | .error e => (b, .error e)
  | .ok p => ({ b with ports := b.ports.modify p.index ({ · with ingress := ingress }) }, .ok ())

/-- What is shown of the ports, in the order of their slots. -/
def portInfos (b : Bridge) : List PortInfo := b.ports.list.map (·.info)

end VlanBridge.Bridge
