import VlanBridge.Net.EtherType
/-!
# Settings of a bridge

The settings that are fixed when a bridge is made, with their defaults, and what is checked of them.
-/

namespace VlanBridge

open VlanBridge.Net

structure BridgeConfig where
  /-- The bridge's name, which is also the master of its devices. -/
  name : String := "ubr0"
  ageingSecs : Nat := 300
  vlanProtocol : EtherType := EtherType.dot1q
  /-- Whether deleting a port also flushes the dynamic entries on it. -/
  flushOnPortDel : Bool := true
  defaultLearning : Bool := true
  deriving DecidableEq, Repr, Inhabited

inductive ConfigError where
  | emptyName
  | zeroAgeing
  | notVlanProtocol (proto : EtherType)
  deriving DecidableEq, Repr

def ConfigError.message : ConfigError → String
  | .emptyName => "name must not be empty"
  | .zeroAgeing => "ageing_time_secs must be > 0"
  | .notVlanProtocol proto => "vlan_protocol " ++ proto.text ++ " is not 802.1Q or 802.1ad"

namespace BridgeConfig

def validate (c : BridgeConfig) : Except ConfigError Unit :=
  if c.name.isEmpty then .error .emptyName
  else if c.ageingSecs = 0 then .error .zeroAgeing
  else if !c.vlanProtocol.isVlan then .error (.notVlanProtocol c.vlanProtocol)
  else .ok ()

def ageingNs (c : BridgeConfig) : Nat := c.ageingSecs * 1000000000

def ageingMs (c : BridgeConfig) : Nat := c.ageingSecs * 1000

theorem validate_ok {c : BridgeConfig} (h : c.validate = .ok ()) :
    c.name ≠ "" ∧ 0 < c.ageingSecs ∧ c.vlanProtocol.isVlan = true := by
  unfold validate at h
  split at h
  · cases h
  case isFalse hn =>
    split at h
    · cases h
    case isFalse ha =>
      split at h
      · cases h
      case isFalse hp =>
        refine ⟨fun e => hn (by simp [e]), Nat.pos_of_ne_zero ha, ?_⟩
        simpa using hp

end BridgeConfig

end VlanBridge
