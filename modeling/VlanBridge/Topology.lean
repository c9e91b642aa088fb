import VlanBridge.Control
/-!
# Topologies

A topology says which devices are the ports of a bridge, which VLANs there are, and which ports
belong to which of them. `requests` is what a new bridge has to be asked for to get there.

The requests come in three rows: all ports, all VLANs, and then port by port what concerns one port
alone. The last row of a port is asked for again when the port has been deleted and added.
-/

namespace VlanBridge

open VlanBridge.Net

structure VlanPlan where
  vid : Vid
  /-- The ports that send its frames without a tag. -/
  untagged : List String := []
  /-- The ports that send its frames with a tag. A port in both lists does. -/
  tagged : List String := []
  /-- Whether its ports leave VLAN 0. -/
  exclusive : Bool := false
  deriving DecidableEq, Repr

namespace VlanPlan

/-- The ports that the VLAN lists, those without a tag first. -/
def ports (v : VlanPlan) : List String := v.untagged ++ v.tagged

/-- The request that makes a port a member, if the VLAN lists the port. -/
def attachment? (v : VlanPlan) (port : String) : Option Request :=
  if port ∈ v.tagged then some (.vlanAttach v.vid port true)
  else if port ∈ v.untagged then some (.vlanAttach v.vid port false)
  else none

theorem attachment?_isSome {v : VlanPlan} {port : String} :
    (v.attachment? port).isSome ↔ port ∈ v.ports := by
  unfold attachment? ports
  rw [List.mem_append]
  split
  · simp_all
  · split <;> simp_all

end VlanPlan

structure Topology where
  /-- The devices of the ports, in the order in which they are added. -/
  ports : List String := ["eth1", "eth2", "eth3", "eth4"]
  vlans : List VlanPlan := []
  /-- The VLANs of frames without one, by port, in the order of the names. -/
  pvids : List (String × Vid) := []
  deriving DecidableEq, Repr

namespace Topology

/-- The VLAN of a port's frames without one, if it is not VLAN 0. -/
def pvid? (t : Topology) (port : String) : Option Vid := List.lookup port t.pvids

/-- Whether a port is in a VLAN whose ports leave VLAN 0. -/
def isExclusive (t : Topology) (port : String) : Bool :=
  t.vlans.any fun v => v.exclusive && (v.attachment? port).isSome

/-- What concerns one port alone. It leaves VLAN 0 once, after it has joined its own VLANs. -/
def portRequests (t : Topology) (port : String) : List Request :=
  t.vlans.filterMap (·.attachment? port)
    ++ (if t.isExclusive port then [.vlanDetach Vid.zero port] else [])
    ++ ((t.pvid? port).map (.portSetPvid port)).toList

def requests (t : Topology) : List Request :=
  t.ports.map (.portAdd · {})
    ++ t.vlans.map (.vlanAdd ·.vid)
    ++ t.ports.flatMap t.portRequests

def renewal (t : Topology) (port : String) : List Request :=
  .portDel port :: .portAdd port {} :: t.portRequests port

/-- The VLANs whose frames a port sends with a tag. -/
def taggedVlans (t : Topology) (port : String) : List Vid :=
  (t.vlans.filter (port ∈ ·.tagged)).map (·.vid)

end Topology

namespace Bridge

/-- Does what some requests ask for, up to the first that fails. -/
def handleAll : List Request → Bridge → Outcome Unit
  | [], b => (b, .ok ())
  | r :: rs, b =>
    match b.handle r with
    | (b, .ok _) => handleAll rs b
    | (b, .error e) => (b, .error e)

/-- Does what some requests ask for, whichever of them fail. -/
def handleEach (rs : List Request) (b : Bridge) : Bridge :=
  rs.foldl (fun b r => (b.handle r).1) b

end Bridge

end VlanBridge
