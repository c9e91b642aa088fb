import VlanBridge.Codec.Bridge
import VlanBridge.PortTable
import VlanBridge.VlanDb
/-!
# What can be seen of the tables, as data

The port table and the VLANs as a whole, a VLAN as one port sees it, and what becomes of a frame that
is classified.
-/

namespace VlanBridge

open VlanBridge.Data

def PortTable.infoValue (t : PortTable) : Value :=
  .obj [("active", t.active.toValue), ("busy", t.busy.toValue), ("len", Value.nat t.size),
    ("empty", .bool t.list.isEmpty), ("list", .arr (t.list.map fun p => .str p.handle.text)),
    ("debug", .str t.text)]

def VlanDb.infoValue (db : VlanDb) : Value :=
  .obj [("len", Value.nat db.list.length), ("empty", .bool db.list.isEmpty),
    ("debug", .str db.text)]

/-- A VLAN as one port sees it, for frames of one class. -/
def Vlan.portValue (v : Vlan) (i : PortIndex) (c : FloodClass) : Value :=
  .obj [("vid", v.vid.toValue), ("member", .bool (decide (i ∈ v.members))),
    ("tagged", .bool (decide (i ∈ v.tagged))), ("routers", v.routers.toValue),
    ("learning", .bool v.learning), ("flood", (v.flood c).toValue), ("debug", .str v.text)]

def Classification.fields (c : Classification) : Fields :=
  [("vid", c.vid.toValue), ("vlan", Value.ofOption (fun r => r.vlan.vid.toValue) c.record),
    ("vlan_ok", .bool c.allowed)]

/-- The filter that a word stands for, with the number of a port if it asks for one. -/
def FlushFilter.preset? (word : String) (port : Option Nat) : Option FlushFilter :=
  match word, port with
  | "all", _ => some all
  | "aged", _ => some aged
  | "port", some n => some (onPort n)
  | "dynamic_on_port", some n => some (dynamicOnPort n)
  | _, _ => none

end VlanBridge
