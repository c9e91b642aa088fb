import VlanBridge.Config
import VlanBridge.Port
import VlanBridge.Fdb.Key
/-!
# Why a control operation fails

Each cause is a constructor of its own; `kind` groups the causes as callers see them and `message`
gives the wording.
-/

namespace VlanBridge

open VlanBridge.Net VlanBridge.Text.Number

inductive BridgeError where
  | bridgeItself (device : String)
  | kindNotBridged (device : String) (kind : DeviceKind)
  | addressNotStation (device : String) (mac : Mac)
  | alreadyPort (device : String)
  | vlanExists (vid : Vid)
  | entryExists (key : Key)
  | ageingStarted
  | unknownPort (index : Nat)
  /-- The handle's port is not there or not there any more. -/
  | unknownHandle (handle : Handle)
  | unknownPortName (name : String)
  | notAPort (device : String)
  | unknownDevice (name : String)
  | unknownVlan (vid : Vid)
  | notMember (port : PortIndex) (vid : Vid)
  | unknownEntry (key : Key)
  | tableFull
  | hasMaster (device : String)
  | enslaveRefused (error : DeviceError)
  | bridgingForbidden (device : String)
  | localPortFixed
  | defaultVlanFixed
  /-- Dynamic entries are made by learning alone. -/
  | dynamicNotAdded
  | emptyPorts (key : Key)
  /-- No entry is made for the zero address. -/
  | zeroAddress (key : Key)
  /-- There is nothing that would wake the ageing task. -/
  | noTimer
  | config (error : ConfigError)
  /-- The text of the settings cannot be understood. -/
  | malformedConfig
  | unreadableConfig
  /-- The number names no slot. -/
  | portOutOfRange (index : Nat)
  deriving DecidableEq, Repr

inductive BridgeError.Kind where
  | invalidDevice
  | alreadyMember
  | alreadyExists
  | notFound
  | capacityExceeded
  | busy
  | unsupported
  | config
  | io
  /-- A fault of the caller that the operation does not guard against. -/
  | fault
  deriving DecidableEq, Repr

namespace BridgeError

def kind : BridgeError → Kind
  | .bridgeItself _ | .kindNotBridged .. | .addressNotStation .. => .invalidDevice
  | .alreadyPort _ => .alreadyMember
  | .vlanExists _ | .entryExists _ | .ageingStarted => .alreadyExists
  | .unknownPort _ | .unknownHandle _ | .unknownPortName _ | .notAPort _ | .unknownDevice _
  | .unknownVlan _ | .notMember .. | .unknownEntry _ => .notFound
  | .tableFull => .capacityExceeded
  | .hasMaster _ | .enslaveRefused _ => .busy
  | .bridgingForbidden _ | .localPortFixed | .defaultVlanFixed | .dynamicNotAdded | .emptyPorts _
  | .zeroAddress _ | .noTimer => .unsupported
  | .config _ | .malformedConfig => .config
  | .unreadableConfig => .io
  | .portOutOfRange _ => .fault

/-- What the wording says behind the kind of failure. -/
def detail : BridgeError → String
  | .bridgeItself device => device ++ ": cannot add a bridge to itself"
  | .kindNotBridged device kind => device ++ ": " ++ kind.word ++ " devices cannot be bridged"
  | .addressNotStation device mac =>
    device ++ ": address " ++ mac.text ++ " is not a valid unicast address"
  | .alreadyPort device => device
  | .vlanExists vid => "vlan " ++ vid.text
  | .entryExists key => key.text
  | .ageingStarted => "ageing task"
  | .unknownPort index => "port " ++ decimal index
  | .unknownHandle handle => "port " ++ handle.text
  | .unknownPortName name => "port " ++ name
  | .notAPort device => device
  | .unknownDevice name => "device " ++ name
  | .unknownVlan vid => "vlan " ++ vid.text
  | .notMember port vid => "port " ++ decimal port.val ++ " in vlan " ++ vid.text
  | .unknownEntry key => key.text
  | .tableFull => decimal maxPorts
  | .hasMaster device => device ++ " already has a master"
  | .enslaveRefused error => error.message
  | .bridgingForbidden device => device ++ " does not allow bridging"
  | .localPortFixed => "the local port cannot be deleted"
  | .defaultVlanFixed => "vlan 0 cannot be deleted"
  | .dynamicNotAdded => "dynamic entries are only learned"
  | .emptyPorts key => key.text ++ ": empty port set"
  | .zeroAddress key => key.text ++ ": zero address"
  | .noTimer => "no timer"
  | .config error => error.message
  | .malformedConfig => "the settings cannot be understood"
  | .unreadableConfig => "the file cannot be read"
  | .portOutOfRange index =>
    "port index " ++ decimal index ++ " out of range (MAX_PORTS = " ++ decimal maxPorts ++ ")"

def message (e : BridgeError) : String :=
  match e.kind with
  | .invalidDevice => "Invalid device: " ++ e.detail
  | .alreadyMember => "Device " ++ e.detail ++ " is already a bridge port"
  | .alreadyExists => "Already exists: " ++ e.detail
  | .notFound => "Not found: " ++ e.detail
  | .capacityExceeded => "Port table full (" ++ e.detail ++ " ports)"
  | .busy => "Busy: " ++ e.detail
  | .unsupported => "Unsupported: " ++ e.detail
  | .config => "Configuration error: " ++ e.detail
  | .io => "IO error: " ++ e.detail
  | .fault => e.detail

end BridgeError

end VlanBridge
