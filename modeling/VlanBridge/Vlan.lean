import VlanBridge.PortSet
import VlanBridge.Net.Vid
/-!
# VLANs

A VLAN knows its member ports, the members that send with a tag, the ports that frames of each class
are flooded to, and the ports behind which multicast routers sit. A new member is flooded to in all
three classes; a member that is attached again keeps its flood ports and only changes its tagging.
-/

namespace VlanBridge

open VlanBridge.Net

inductive FloodClass where
  | unicast
  | multicast
  | broadcast
  deriving DecidableEq, Repr

structure Vlan where
  vid : Vid
  members : PortSet := ∅
  /-- The ports that send frames of the VLAN with a tag. -/
  tagged : PortSet := ∅
  unicastFlood : PortSet := ∅
  multicastFlood : PortSet := ∅
  broadcastFlood : PortSet := ∅
  /-- The ports that all frames to IP groups go to as well. -/
  routers : PortSet := ∅
  learning : Bool
  deriving DecidableEq

namespace Vlan

/-- The ports that frames of a class are flooded to. -/
def flood (v : Vlan) : FloodClass → PortSet
  | .unicast => v.unicastFlood
  | .multicast => v.multicastFlood
  | .broadcast => v.broadcastFlood

/-- Changes the ports that frames of a class are flooded to. -/
def modifyFlood (v : Vlan) (c : FloodClass) (f : PortSet → PortSet) : Vlan :=
  match c with
  | .unicast => { v with unicastFlood := f v.unicastFlood }
  | .multicast => { v with multicastFlood := f v.multicastFlood }
  | .broadcast => { v with broadcastFlood := f v.broadcastFlood }

/-- Makes a port a member that sends with or without a tag. -/
def attach (v : Vlan) (i : PortIndex) (tagged : Bool) : Vlan :=
  let v := if i ∈ v.members then v else
    { v with
      members := v.members.insert i
      unicastFlood := v.unicastFlood.insert i
      multicastFlood := v.multicastFlood.insert i
      broadcastFlood := v.broadcastFlood.insert i }
  { v with tagged := v.tagged.set i tagged }

def detach (v : Vlan) (i : PortIndex) : Vlan :=
  { v with
    members := v.members.erase i
    tagged := v.tagged.erase i
    unicastFlood := v.unicastFlood.erase i
    multicastFlood := v.multicastFlood.erase i
    broadcastFlood := v.broadcastFlood.erase i
    routers := v.routers.erase i }

/-- Takes all members out of all sets. Flood and router ports that are no members stay. -/
def detachMembers (v : Vlan) : Vlan := v.members.toList.foldl detach v

/-- Has frames of a class flooded to a port, or not. -/
def setFlood (v : Vlan) (c : FloodClass) (i : PortIndex) (enabled : Bool) : Vlan :=
  v.modifyFlood c (·.set i enabled)

/-- Puts a port among the router ports or takes it out. -/
def setRouter (v : Vlan) (i : PortIndex) (enabled : Bool) : Vlan :=
  { v with routers := v.routers.set i enabled }

def text (v : Vlan) : String :=
  "Vlan \x7b vid: VlanId(" ++ v.vid.text ++ "), members: " ++ v.members.text ++ ", tagged: "
    ++ v.tagged.text ++ ", learning: " ++ (if v.learning then "true" else "false") ++ ", .. \x7d"

/-! ### What the operations do to the sets -/

theorem flood_modifyFlood (v : Vlan) (c d : FloodClass) (f : PortSet → PortSet) :
    (v.modifyFlood c f).flood d = if d = c then f (v.flood d) else v.flood d := by
  cases c <;> cases d <;> rfl

theorem mem_members_attach {v : Vlan} {i j : PortIndex} {tagged : Bool} :
    j ∈ (v.attach i tagged).members ↔ j = i ∨ j ∈ v.members := by
  unfold attach
  by_cases h : i ∈ v.members
  · simp only [h, if_true]
    exact ⟨Or.inr, fun hj => hj.elim (fun e => e ▸ h) id⟩
  · simp only [h, if_false, PortSet.mem_insert]

theorem mem_tagged_attach {v : Vlan} {i j : PortIndex} {tagged : Bool} :
    j ∈ (v.attach i tagged).tagged ↔ if j = i then tagged = true else j ∈ v.tagged := by
  unfold attach
  split <;> exact PortSet.mem_set

theorem mem_members_detach {v : Vlan} {i j : PortIndex} :
    j ∈ (v.detach i).members ↔ j ≠ i ∧ j ∈ v.members := PortSet.mem_erase

theorem mem_tagged_detach {v : Vlan} {i j : PortIndex} :
    j ∈ (v.detach i).tagged ↔ j ≠ i ∧ j ∈ v.tagged := PortSet.mem_erase

theorem vid_attach (v : Vlan) (i : PortIndex) (tagged : Bool) :
    (v.attach i tagged).vid = v.vid := by
  unfold attach
  split <;> rfl

theorem vid_detach (v : Vlan) (i : PortIndex) : (v.detach i).vid = v.vid := rfl

theorem vid_setFlood (v : Vlan) (c : FloodClass) (i : PortIndex) (enabled : Bool) :
    (v.setFlood c i enabled).vid = v.vid := by
  cases c <;> rfl

end Vlan

end VlanBridge
