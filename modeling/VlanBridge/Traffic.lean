import VlanBridge.Bridge.Observer
import VlanBridge.Bridge.Ports
import VlanBridge.Traffic.Dice
import VlanBridge.Traffic.Report
/-!
# Traffic

The stations of a simulation have addresses that tell the port and the number of the station behind
it, so no two stations share one. A worker sends the frames of the stations behind one port into the
bridge, one frame a step; several workers' steps may follow one another in any order.

A worker keeps the handle of its port. When the port is gone, it looks for the handle by the port's
name with each frame, and such a frame counts as dropped.
-/

namespace VlanBridge.Traffic

open VlanBridge.Net

/-- The address of a station behind the port with a number. -/
def station (ordinal n : Nat) : Mac :=
  ⟨0x02, 0x5e, UInt8.ofNat (ordinal / 256), UInt8.ofNat ordinal, UInt8.ofNat (n / 256),
    UInt8.ofNat n⟩

theorem station_isStation (ordinal n : Nat) : (station ordinal n).isStation = true := by
  have hg : (station ordinal n).isGroup = false := by
    show ((0x02 : UInt8) &&& 1 != 0) = false
    decide
  have hz : (station ordinal n).isZero = false := by
    simp [Mac.isZero, station, Mac.zero]
  simp [Mac.isStation, hg, hz]

/-- Two numbers below 2^16 with the same two octets are equal. -/
theorem eq_of_octets_eq {m n : Nat} (hm : m < 65536) (hn : n < 65536)
    (hhi : UInt8.ofNat (m / 256) = UInt8.ofNat (n / 256)) (hlo : UInt8.ofNat m = UInt8.ofNat n) :
    m = n := by
  have hi := congrArg UInt8.toNat hhi
  have lo := congrArg UInt8.toNat hlo
  simp only [UInt8.toNat_ofNat'] at hi lo
  omega

theorem station_injective {o m p n : Nat} (ho : o < 65536) (hm : m < 65536) (hp : p < 65536)
    (hn : n < 65536) (h : station o m = station p n) : o = p ∧ m = n := by
  simp only [station, Mac.mk.injEq] at h
  obtain ⟨-, -, h2, h3, h4, h5⟩ := h
  exact ⟨eq_of_octets_eq ho hp h2 h3, eq_of_octets_eq hm hn h4 h5⟩

structure PortTraffic where
  port : String
  /-- The place of the port in the topology. -/
  ordinal : Nat
  frames : Nat
  stations : Nat
  /-- How many stations are behind each port, by its place in the topology. -/
  peers : List Nat
  /-- The VLANs whose frames may have a tag. -/
  taggedVlans : List Vid := []
  /-- Which share of the frames goes to all stations, in percent. -/
  broadcastPercent : Nat
  deriving DecidableEq, Repr

inductive TrafficFault where
  /-- Something has to be drawn where there is nothing to choose from. -/
  | emptyRange
  deriving DecidableEq, Repr

def TrafficFault.message : TrafficFault → String
  | .emptyRange => "cannot sample empty range"

namespace PortTraffic

def source (t : PortTraffic) (d : Draw) : Except TrafficFault Mac :=
  if t.stations = 0 then .error .emptyRange else .ok (station t.ordinal (d.source % t.stations))

/-- The destination of a frame; where a port is said to have no station it still has the first. -/
def destination (t : PortTraffic) (d : Draw) : Except TrafficFault Mac :=
  if d.percent % 100 < t.broadcastPercent then .ok Mac.broadcast
  else if t.peers = [] then .error .emptyRange
  else
    let peer := d.peer % t.peers.length
    .ok (station peer (d.target % max (t.peers.getD peer 0) 1))

/-- The VLAN of a frame's tag: every other frame has one, if there are VLANs to choose from. -/
def tagVid? (t : PortTraffic) (d : Draw) : Option Vid :=
  if d.coin % 2 = 0 then none else t.taggedVlans[d.vlan % t.taggedVlans.length]?

def payload : List UInt8 := List.replicate 46 0

def frame (t : PortTraffic) (d : Draw) : Except TrafficFault Frame :=
  match t.source d, t.destination d with
  | .ok src, .ok dst =>
    .ok ((Frame.ethernet dst src EtherType.ipv4 payload).withTag
      ((t.tagVid? d).map (Tag.plain EtherType.dot1q)))
  | .error e, _ => .error e
  | .ok _, .error e => .error e

/-- Traffic for which there are stations behind its port, and ports, can always be made. -/
theorem frame_isOk {t : PortTraffic} (hs : t.stations ≠ 0) (hp : t.peers ≠ []) (d : Draw) :
    ∃ f, t.frame d = .ok f := by
  unfold frame source destination
  split <;> simp_all
  next h =>
    split at h <;> simp_all

end PortTraffic

/-- The handle of the port with a name, if it is there. -/
def currentHandle? (b : Bridge) (port : String) : Option Handle :=
  match b.portIndex port with
  | .error _ => none
  | .ok i =>
    match b.portHandle i.val with
    | .error _ => none
    | .ok h => some h

structure Worker where
  traffic : PortTraffic
  handle : Option Handle
  report : WorkerReport
  deriving DecidableEq, Repr

namespace Worker

variable {σ : Type}

def start (b : Bridge) (t : PortTraffic) : Worker :=
  ⟨t, currentHandle? b t.port, { port := t.port }⟩

/-- A worker after a frame, which looks for its port again if the port has gone. -/
def after (w : Worker) (b : Bridge) (v : Verdict) : Worker :=
  { w with
    handle := if v = .dropped .portInactive then currentHandle? b w.traffic.port else w.handle
    report := w.report.record v }

def step (o : Observer σ) (s : σ) (w : Worker) (d : Draw) : σ × Except TrafficFault Worker :=
  match w.traffic.frame d with
  | .error e => (s, .error e)
  | .ok f =>
    match w.handle with
    | none => (s, .ok (w.after (o.bridge s) (.dropped .portInactive)))
    | some h =>
      let (s, r) := o.receiveIn s h f
      (s, .ok (w.after (o.bridge s) r.verdict))

def sendFrames (o : Observer σ) (dice : Dice) : Nat → σ → Worker → σ × Except TrafficFault Worker
  | 0, s, w => (s, .ok w)
  | n + 1, s, w =>
    match w.step o s (dice w.report.sent) with
    | (s, .error e) => (s, .error e)
    | (s, .ok w) => sendFrames o dice n s w

end Worker

def runPort {σ : Type} (o : Observer σ) (dice : Dice) (s : σ) (t : PortTraffic) :
    σ × Except TrafficFault WorkerReport :=
  let (s, result) := (Worker.start (o.bridge s) t).sendFrames o dice t.frames s
  (s, match result with
    | .ok w => .ok w.report
    | .error e => .error e)

end VlanBridge.Traffic
