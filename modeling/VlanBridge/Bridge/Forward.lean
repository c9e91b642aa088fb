import VlanBridge.Bridge.Basic
/-!
# Forwarding a frame

A frame that comes in is classified to a VLAN, its source is learned, the trap may take it, and then
it goes to the ports that the entry of its destination names, or to the flood ports of its class if
there is no entry; of these, to the active members of the VLAN other than the port it came in by.

`assess` does all of this up to the choice of the targets and gives a `Flight`; `send` hands the
frame to one target. What happens between two targets may change the bridge, so a flight keeps the
ports as they were and names its VLAN by the record. `receive` is the whole way of one frame.

Every target but the last sends a copy of the frame. There is always memory for one here: the end of a
frame that could not be copied, `DropReason.cloneFailure`, is read, written and counted like the others,
but no frame comes to it.
-/

namespace VlanBridge

open VlanBridge.Net

/-- A frame on its way to its targets. -/
structure Flight where
  /-- The serial number of its VLAN's record. -/
  serial : Nat
  vid : Vid
  frame : Frame
  /-- The ports it is sent to, in ascending order. -/
  targets : List Port

/-- What is decided about a frame before it is sent. -/
inductive Admission where
  | dropped (reason : DropReason)
  | trapped (ingress : PortIndex) (vid : Vid) (frame : Frame)
  | forward (flight : Flight)

structure Emission where
  port : PortIndex
  frame : Frame
  accepted : Bool

structure Reception where
  verdict : Verdict
  /-- What the trap took. -/
  trapped : Option (PortIndex × Vid × Frame) := none
  sent : List Emission := []

/-- The address that the entry of a frame to a group is looked up by: the IP group in its payload, or
else its MAC address. -/
def groupAddress (f : Frame) (dst : Mac) : Address :=
  match f.ipv4Dst?.filter (·.isMulticast), f.ipv6Dst?.filter (·.isMulticast) with
  | some group, _ => .ipv4 group
  | none, some group => .ipv6 group
  | none, none => .mac dst

/-- The key that a frame's entry is looked up by, and the class of the frame. -/
def destination (f : Frame) (vid : Vid) (dst : Mac) : Option Key × FloodClass :=
  if dst.isBroadcast then (none, .broadcast)
  else if dst.isGroup then (some ⟨vid, groupAddress f dst⟩, .multicast)
  else (some (Key.mac vid dst), .unicast)

/-- The end of a frame that so many ports took and so many refused. -/
def Verdict.ofTally (accepted refused : Nat) : Verdict :=
  if 0 < accepted then .delivered accepted
  else if 0 < refused then .dropped .transmitFailed
  else .dropped .noDestination

namespace Bridge

def count (b : Bridge) (c : Counter) : Bridge := { b with counters := b.counters.count c }

/-- Learns the source of a frame if its port and its VLAN learn. -/
def learnSource (b : Bridge) (p : Port) (c : Classification) (src : Mac) : Bridge :=
  match c.record with
  | some r =>
    if p.ingress.learning && r.vlan.learning then
      b.withLearning (b.toLearning.learn src c.vid p.index b.clock).1
    else b
  | none => b

def isTrapped (b : Bridge) (ingress : PortIndex) (vid : Vid) (f : Frame) : Bool :=
  match b.trap with
  | some trap => trap.accepts ingress vid f
  | none => false

/-- The ports that a frame is meant for in its VLAN, and the counter of the way they were found. -/
def resolve (b : Bridge) (v : Vlan) (vid : Vid) (f : Frame) (dst : Mac) : PortSet × Counter :=
  let (key, flood) := destination f vid dst
  match key with
  | some key =>
    match b.fdb.lookup key v.routers with
    | some ports => (ports, if key.address.isGroup then .groupHits else .unicastHits)
    | none => (v.flood flood, .flooded)
  | none => (v.flood flood, .flooded)

/-- Those of the ports a frame is meant for that it may be sent to. -/
def reachable (b : Bridge) (p : Port) (v : Vlan) (meant : PortSet) : PortSet :=
  b.ports.active ∩ p.egress ∩ v.members ∩ meant

/-- Sends a frame that may pass on its way to its targets, if there are any. -/
def route (b : Bridge) (p : Port) (r : VlanRecord) (vid : Vid) (f : Frame) (dst : Mac) :
    Bridge × Admission :=
  let (meant, counter) := b.resolve r.vlan vid f dst
  let b := b.count counter
  let targets := b.reachable p r.vlan meant
  if targets.isEmpty then (b, .dropped .noDestination)
  else (b, .forward ⟨r.serial, r.vlan.vid, f, targets.toList.filterMap b.ports.port?⟩)

/-- Decides about a frame that came in at an active port with a full header. -/
def assessFrom (b : Bridge) (p : Port) (f : Frame) (dst src : Mac) : Bridge × Admission :=
  match b.vlans.classify p f b.config.vlanProtocol with
  | .error reason => (b, .dropped reason)
  | .ok (c, f) =>
    let b := b.learnSource p c src
    if b.isTrapped p.index c.vid f then (b, .trapped p.index c.vid f)
    else match c.record with
      | some r => if c.allowed then b.route p r c.vid f dst else (b, .dropped .vlanNotAllowed)
      | none => (b, .dropped .vlanNotAllowed)

/-- Decides about a frame that came in at the port of a handle. -/
def assess (b : Bridge) (h : Handle) (f : Frame) : Bridge × Admission :=
  match b.ports.resolve h with
  | .error _ => (b, .dropped .portInactive)
  | .ok p =>
    if p.index ∉ b.ports.active then (b, .dropped .portInactive)
    else if !f.hasHeader then (b, .dropped .runt)
    else match f.dst?, f.src? with
      | some dst, some src => b.assessFrom p f dst src
      | _, _ => (b, .dropped .runt)

/-! ### Sending -/

/-- The tag under which a frame is sent to a tagged member of a VLAN. -/
def egressTag (proto : EtherType) (vid : Vid) (tag : Option Tag) : Tag :=
  match tag with
  | some tag => (tag.withProto proto).withVid vid
  | none => Tag.plain proto vid

/-- Whether a port sends the frames of a record's VLAN with a tag. -/
def sendsTagged (b : Bridge) (serial : Nat) (i : PortIndex) : Bool :=
  match b.vlans.record? serial with
  | some v => i ∈ v.tagged
  | none => false

def outgoing (b : Bridge) (flight : Flight) (i : PortIndex) : Frame :=
  flight.frame.withTag <|
    if b.sendsTagged flight.serial i then
      some (egressTag b.config.vlanProtocol flight.vid flight.frame.tag)
    else none

/-- Hands a frame to a port; says whether it was taken. -/
def handOver (b : Bridge) (p : Port) (f : Frame) : Bridge × Bool :=
  match p.endpoint with
  | .localStack =>
    (({ b with network := b.network.deliverLocally f } : Bridge).count .localDelivered, true)
  | .device id =>
    let (network, accepted) := b.network.transmit id f
    (({ b with network } : Bridge).count (if accepted then .txFrames else .txErrors), accepted)

def send (b : Bridge) (flight : Flight) (p : Port) : Bridge × Emission :=
  let f := b.outgoing flight p.index
  let (b, accepted) := b.handOver p f
  (b, ⟨p.index, f, accepted⟩)

/-- Sends the frame of a flight to some ports in turn. No port is passed over because the frame could not
be copied for it. -/
def sendAll (flight : Flight) : List Port → Bridge → Bridge × List Emission
  | [], b => (b, [])
  | p :: ps, b =>
    let (b, e) := b.send flight p
    let (b, es) := sendAll flight ps b
    (b, e :: es)

def verdictOf (sent : List Emission) : Verdict :=
  Verdict.ofTally (sent.countP (·.accepted)) (sent.countP (!·.accepted))

/-! ### The whole way -/

/-- A frame comes in: from here on, what it may refer to is kept. -/
def enter (b : Bridge) : Bridge × Guard :=
  let (reclaimer, guard) := b.reclaimer.pin
  (({ b with reclaimer } : Bridge).count .rxFrames, guard)

def leave (b : Bridge) (guard : Guard) (verdict : Verdict) : Bridge :=
  let counters := match verdict with
    | .dropped reason => b.counters.countDrop reason
    | .delivered _ | .trapped => b.counters
  { b with counters, reclaimer := b.reclaimer.unpin guard }

def receive (b : Bridge) (h : Handle) (f : Frame) : Bridge × Reception :=
  let (b, guard) := b.enter
  match b.assess h f with
  | (b, .dropped reason) => (b.leave guard (.dropped reason), { verdict := .dropped reason })
  | (b, .trapped ingress vid f) =>
    ((b.count .trapped).leave guard .trapped,
      { verdict := .trapped, trapped := some (ingress, vid, f) })
  | (b, .forward flight) =>
    let (b, sent) := sendAll flight flight.targets b
    (b.leave guard (verdictOf sent), { verdict := verdictOf sent, sent })

end Bridge

end VlanBridge
