import VlanBridge.Bridge.Ageing
import VlanBridge.Bridge.Entries
import VlanBridge.Bridge.Vlans
/-!
# Operations as values

What can be done to a bridge other than sending frames into it, with ports given by the numbers of
their slots and devices by their references. `perform` does one operation, `performAll` several in
turn, whichever of them fail.
-/

namespace VlanBridge

open VlanBridge.Net

inductive Operation where
  | portAdd (device : DeviceId) (ingress : IngressDefaults)
  | portDel (port : Nat)
  | portSetPvid (port : Nat) (vid : Vid)
  | portSetIngress (port : Nat) (ingress : IngressDefaults)
  | vlanAdd (vid : Vid)
  | vlanDel (vid : Vid)
  | vlanAttach (vid : Vid) (port : Nat) (tagged : Bool)
  | vlanDetach (vid : Vid) (port : Nat)
  | vlanSetLearning (vid : Vid) (enabled : Bool)
  | vlanSetFlood (vid : Vid) (class' : FloodClass) (port : Nat) (enabled : Bool)
  | vlanSetRouter (vid : Vid) (port : Nat) (enabled : Bool)
  | fdbFlush (filter : FlushFilter)
  | fdbAdd (key : Key) (ports : PortSet) (origin : Origin)
  | fdbDel (key : Key)
  /-- Learns an address without a frame. -/
  | learn (src : Mac) (vid : Vid) (port : Nat)
  | reclaim
  | quiesce
  | startAgeing (timer : Option Timer)
  | sleep (ms : Nat)
  | shutdown
  deriving DecidableEq

namespace Operation

inductive Answer where
  | done
  | handle (h : Handle)
  | count (n : Nat)
  | flag (b : Bool)
  | learned (outcome : LearnOutcome)
  deriving DecidableEq, Repr

end Operation

namespace Bridge

def perform (b : Bridge) : Operation → Outcome Operation.Answer
  | .portAdd device ingress => answer (b.portAdd device ingress) .handle
  | .portDel port => answer (b.portDel port) fun _ => .done
  | .portSetPvid port vid => answer (b.portSetPvid port vid) fun _ => .done
  | .portSetIngress port ingress => answer (b.portSetIngress port ingress) fun _ => .done
  | .vlanAdd vid => answer (b.vlanAdd vid) fun _ => .done
  | .vlanDel vid => answer (b.vlanDel vid) fun _ => .done
  | .vlanAttach vid port tagged => answer (b.vlanAttach vid port tagged) fun _ => .done
  | .vlanDetach vid port => answer (b.vlanDetach vid port) fun _ => .done
  | .vlanSetLearning vid enabled => answer (b.vlanSetLearning vid enabled) fun _ => .done
  | .vlanSetFlood vid c port enabled =>
    answer (b.vlanSetFlood vid c port enabled) fun _ => .done
  | .vlanSetRouter vid port enabled => answer (b.vlanSetRouter vid port enabled) fun _ => .done
  | .fdbFlush filter => answer (b.fdbFlush filter) .count
  | .fdbAdd key ports origin => answer (b.fdbAdd key ports origin) fun _ => .done
  | .fdbDel key => answer (b.fdbDel key) fun _ => .done
  | .learn src vid port => answer (b.learnAt src vid port) .learned
  | .reclaim =>
    let (b, n) := b.reclaim
    (b, .ok (.count n))
  | .quiesce =>
    let (b, done) := b.quiesce
    (b, .ok (.flag done))
  | .startAgeing timer => answer (b.startAgeing timer) fun _ => .done
  | .sleep ms => (b.sleep ms, .ok .done)
  | .shutdown => (b.shutdown, .ok .done)

/-- Does some operations in turn, whichever of them fail. -/
def performAll (ops : List Operation) (b : Bridge) : Bridge :=
  ops.foldl (fun b op => (b.perform op).1) b

end Bridge

end VlanBridge
