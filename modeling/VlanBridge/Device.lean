import VlanBridge.Frame
/-!
# Network devices

A device belongs to the network stack around the bridge. It has at most one master, sends frames
only while it has one, and keeps what it sent unless it only counts. A device may be set up to
refuse every master or every frame.
-/

namespace VlanBridge

open VlanBridge.Net

inductive DeviceKind where
  | ethernet
  | loopback
  | bridge
  | tunnel
  | other
  deriving DecidableEq, Repr

def DeviceKind.word : DeviceKind → String
  | .ethernet => "Ethernet"
  | .loopback => "Loopback"
  | .bridge => "Bridge"
  | .tunnel => "Tunnel"
  | .other => "Other"

inductive DeviceError where
  /-- It has no master and so sends nothing. -/
  | detached (device : String)
  | hasMaster (device master : String)
  | rejected (device reason : String)
  deriving DecidableEq, Repr

def DeviceError.message : DeviceError → String
  | .detached device => "device " ++ device ++ " is not attached to a bridge"
  | .hasMaster device master => "device " ++ device ++ " already has master " ++ master
  | .rejected device reason => "device " ++ device ++ " rejected the request: " ++ reason

structure Device where
  name : String
  mac : Mac
  kind : DeviceKind := .ethernet
  master : Option String := none
  /-- Whether it may be a port of a bridge. -/
  bridgingAllowed : Bool := true
  /-- Whether it keeps the frames it sends, and not only their number. -/
  captures : Bool := true
  refusesMaster : Option String := none
  refusesFrames : Option String := none
  /-- The frames kept since they were last taken, the latest first. -/
  sent : List Frame := []
  txFrames : UInt64 := 0
  txRejected : UInt64 := 0
  deriving DecidableEq, Repr

namespace Device

def hasMaster (d : Device) : Bool := d.master.isSome

/-- Gives the device a master unless it has one. -/
def attachTo (d : Device) (bridge : String) : Except DeviceError Device :=
  match d.master with
  | some master => .error (.hasMaster d.name master)
  | none => .ok { d with master := some bridge }

/-- Gives the device a master unless it has one or refuses them all. -/
def enslave (d : Device) (bridge : String) : Except DeviceError Device :=
  match d.refusesMaster with
  | some reason => .error (.rejected d.name reason)
  | none => d.attachTo bridge

def release (d : Device) : Device := { d with master := none }

/-- Sends a frame. A refusal for want of a master is counted; a device that refuses every frame does
not look at it. -/
def transmit (d : Device) (f : Frame) : Device × Except DeviceError Unit :=
  match d.refusesFrames, d.master with
  | some reason, _ => (d, .error (.rejected d.name reason))
  | none, none => ({ d with txRejected := d.txRejected + 1 }, .error (.detached d.name))
  | none, some _ =>
    ({ d with txFrames := d.txFrames + 1, sent := if d.captures then f :: d.sent else d.sent },
      .ok ())

/-- Takes out the frames kept so far, in the order in which they were sent. -/
def takeSent (d : Device) : Device × List Frame := ({ d with sent := [] }, d.sent.reverse)

/-- Releasing takes back what enslaving has done. -/
theorem release_enslave {d e : Device} {bridge : String} (h : d.enslave bridge = .ok e) :
    e.release = d := by
  unfold enslave attachTo at h
  split at h
  · cases h
  · split at h
    · cases h
    case h_2 hm =>
      cases h
      cases d
      simp only [release] at hm ⊢
      rw [hm]

end Device

end VlanBridge
