import VlanBridge.Bridge.Ageing
import VlanBridge.Bridge.Entries
import VlanBridge.Bridge.Forward
import VlanBridge.Bridge.Vlans
/-!
# The control channel

Requests and responses as values. A request names ports by their devices; the bridge's own name is
the local port's.
-/

namespace VlanBridge

open VlanBridge.Net

inductive Request where
  | portAdd (device : String) (defaults : IngressDefaults)
  | portDel (device : String)
  | portSetPvid (port : String) (vid : Vid)
  | portSetIngress (port : String) (defaults : IngressDefaults)
  | portList
  | vlanAdd (vid : Vid)
  | vlanDel (vid : Vid)
  | vlanAttach (vid : Vid) (port : String) (tagged : Bool)
  | vlanDetach (vid : Vid) (port : String)
  | vlanSetLearning (vid : Vid) (enabled : Bool)
  | vlanSetFlood (vid : Vid) (port : String) (class' : FloodClass) (enabled : Bool)
  | vlanSetRouter (vid : Vid) (port : String) (enabled : Bool)
  | vlanList
  | fdbFlush (port : Option String) (vid : Option Vid) (origin : Option Origin) (agedOnly : Bool)
  | fdbAdd (key : Key) (ports : List String) (origin : Origin)
  | fdbDel (key : Key)
  | fdbDump
  | counters
  deriving DecidableEq, Repr

inductive Response where
  | done
  | portAdded (port : Handle)
  | ports (ports : List PortInfo)
  | vlans (vlans : List Vlan)
  | flushed (count : Nat)
  | fdb (entries : List EntryRecord)
  | counters (counters : Counters)
  deriving DecidableEq

namespace Bridge

def onPort (b : Bridge) (name : String) (run : Nat → Outcome Unit) : Outcome Response :=
  match b.portIndex name with
  | .error e => (b, .error e)
  | .ok i => answer (run i.val) fun () => .done

/-- The slots of the ports with the given names, or the first failure. -/
def portIndices (b : Bridge) : List String → Except BridgeError (List PortIndex)
  | [] => .ok []
  | name :: names =>
    match b.portIndex name with
    | .error e => .error e
    | .ok i =>
      match b.portIndices names with
      | .error e => .error e
      | .ok is => .ok (i :: is)

def handle (b : Bridge) : Request → Outcome Response
  | .portAdd device defaults =>
    match b.network.lookup device with
    | none => (b, .error (.unknownDevice device))
    | some id => answer (b.portAdd id defaults) .portAdded
  | .portDel device => b.onPort device b.portDel
  | .portSetPvid port vid => b.onPort port (b.portSetPvid · vid)
  | .portSetIngress port defaults => b.onPort port (b.portSetIngress · defaults)
  | .portList => (b, .ok (.ports b.portInfos))
  | .vlanAdd vid => answer (b.vlanAdd vid) fun () => .done
  | .vlanDel vid => answer (b.vlanDel vid) fun () => .done
  | .vlanAttach vid port tagged => b.onPort port (b.vlanAttach vid · tagged)
  | .vlanDetach vid port => b.onPort port (b.vlanDetach vid ·)
  | .vlanSetLearning vid enabled => answer (b.vlanSetLearning vid enabled) fun () => .done
  | .vlanSetFlood vid port c enabled => b.onPort port (b.vlanSetFlood vid c · enabled)
  | .vlanSetRouter vid port enabled => b.onPort port (b.vlanSetRouter vid · enabled)
  | .vlanList => (b, .ok (.vlans b.vlans.list))
  | .fdbFlush port vid origin agedOnly =>
    match port with
    | none => answer (b.fdbFlush { vid, origin, agedOnly }) .flushed
    | some name =>
      match b.portIndex name with
      | .error e => (b, .error e)
      | .ok i => answer (b.fdbFlush { port := some i.val, vid, origin, agedOnly }) .flushed
  | .fdbAdd key ports origin =>
    match b.portIndices ports with
    | .error e => (b, .error e)
    | .ok is => answer (b.fdbAdd key (PortSet.ofList is) origin) fun () => .done
  | .fdbDel key => answer (b.fdbDel key) fun () => .done
  | .fdbDump => (b, .ok (.fdb b.fdbRecords))
  | .counters => (b, .ok (.counters b.counters))

end Bridge

end VlanBridge
