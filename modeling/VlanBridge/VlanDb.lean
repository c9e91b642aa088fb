import VlanBridge.Error
import VlanBridge.Ordered
import VlanBridge.Verdict
import VlanBridge.Vlan
/-!
# The VLANs of a bridge

The records of all VLANs in the order of their identifiers; VLAN 0 is always there. Each record has
a serial number of its own, so a frame in flight can tell the VLAN it was classified to from one
that was made again under the same identifier: a deleted record loses its members and stays among
the withdrawn ones until nothing can refer to it any more.

`classify` finds the VLAN of a frame that comes in.
-/

namespace VlanBridge

open VlanBridge.Net

structure VlanRecord where
  serial : Nat
  vlan : Vlan
  deriving DecidableEq

structure VlanDb where
  /-- The records in use, by ascending identifier. -/
  published : List VlanRecord
  /-- The records of deleted VLANs that may still be referred to. -/
  withdrawn : List VlanRecord := []
  /-- How many records were ever made. -/
  created : Nat
  deriving DecidableEq

/-- What is found out about a frame that comes in. -/
structure Classification where
  /-- The identifier that counts for the frame. -/
  vid : Vid
  /-- The record of the VLAN, if there is one. -/
  record : Option VlanRecord
  /-- Whether the port may send into the VLAN. -/
  allowed : Bool

namespace VlanDb

/-- The identifier of a record, which orders the records. -/
def rank (r : VlanRecord) : Nat := r.vlan.vid.number

/-- The database with VLAN 0 alone. -/
def initial (learning : Bool) : VlanDb :=
  { published := [⟨0, { vid := Vid.zero, learning }⟩], created := 1 }

instance : Inhabited VlanDb := ⟨initial true⟩

def find? (db : VlanDb) (vid : Vid) : Option VlanRecord :=
  db.published.find? (·.vlan.vid == vid)

def vlan? (db : VlanDb) (vid : Vid) : Option Vlan := (db.find? vid).map (·.vlan)

def require (db : VlanDb) (vid : Vid) : Except BridgeError Vlan :=
  match db.vlan? vid with
  | some v => .ok v
  | none => .error (.unknownVlan vid)

/-- The record with a serial number as it is now, in use or withdrawn. -/
def record? (db : VlanDb) (serial : Nat) : Option Vlan :=
  ((db.published ++ db.withdrawn).find? (·.serial == serial)).map (·.vlan)

def list (db : VlanDb) : List Vlan := db.published.map (·.vlan)

def modify (db : VlanDb) (vid : Vid) (f : Vlan → Vlan) : VlanDb :=
  { db with published := db.published.map fun r =>
      if r.vlan.vid = vid then { r with vlan := f r.vlan } else r }

def modifyExisting (db : VlanDb) (vid : Vid) (f : Vlan → Vlan) : Except BridgeError VlanDb :=
  match db.require vid with
  | .ok _ => .ok (db.modify vid f)
  | .error e => .error e

def create (db : VlanDb) (vid : Vid) (learning : Bool) : Except BridgeError VlanDb :=
  match db.find? vid with
  | some _ => .error (.vlanExists vid)
  | none =>
    .ok { db with
      published := Ordered.insert rank ⟨db.created, { vid, learning }⟩ db.published
      created := db.created + 1 }

/-- Takes a VLAN out; its record loses all members and is withdrawn. -/
def delete (db : VlanDb) (vid : Vid) : Except BridgeError (VlanDb × VlanRecord) :=
  if vid.isZero then .error .defaultVlanFixed
  else match db.find? vid with
    | none => .error (.unknownVlan vid)
    | some r =>
      let gone := { r with vlan := r.vlan.detachMembers }
      .ok ({ db with
        published := db.published.filter (·.vlan.vid != vid)
        withdrawn := gone :: db.withdrawn }, gone)

def discard (db : VlanDb) (serial : Nat) : VlanDb :=
  { db with withdrawn := db.withdrawn.filter (·.serial != serial) }

/-- Makes a port a member, or changes its tagging if it is one. -/
def attach (db : VlanDb) (vid : Vid) (i : PortIndex) (tagged : Bool) : Except BridgeError VlanDb :=
  db.modifyExisting vid (·.attach i tagged)

/-- Takes a port out of a VLAN. All sets lose the port even if it was no member, which is reported. -/
def detach (db : VlanDb) (vid : Vid) (i : PortIndex) : VlanDb × Except BridgeError Unit :=
  match db.require vid with
  | .error e => (db, .error e)
  | .ok v =>
    (db.modify vid (·.detach i), if i ∈ v.members then .ok () else .error (.notMember i vid))

/-- Takes a port out of every VLAN; lists those it was a member of. -/
def detachAll (db : VlanDb) (i : PortIndex) : VlanDb × List Vid :=
  ({ db with published := db.published.map fun r => { r with vlan := r.vlan.detach i } },
    (db.list.filter fun v => i ∈ v.members).map (·.vid))

def setLearning (db : VlanDb) (vid : Vid) (enabled : Bool) : Except BridgeError VlanDb :=
  db.modifyExisting vid fun v => { v with learning := enabled }

/-- Has frames of a class flooded to a port, or not. -/
def setFlood (db : VlanDb) (vid : Vid) (c : FloodClass) (i : PortIndex) (enabled : Bool) :
    Except BridgeError VlanDb :=
  db.modifyExisting vid (·.setFlood c i enabled)

/-- Puts a port among the router ports or takes it out. -/
def setRouter (db : VlanDb) (vid : Vid) (i : PortIndex) (enabled : Bool) :
    Except BridgeError VlanDb :=
  db.modifyExisting vid (·.setRouter i enabled)

/-- The slot with a number, asked for in a VLAN: the VLAN is looked for first, and a number that
names no slot is a fault. -/
def slotIn (db : VlanDb) (vid : Vid) (n : Nat) : Except BridgeError PortIndex :=
  match db.require vid, PortIndex.ofNat? n with
  | .error e, _ => .error e
  | .ok _, some i => .ok i
  | .ok _, none => .error (.portOutOfRange n)

def text (db : VlanDb) : String :=
  "[" ++ ", ".intercalate (db.list.map fun v => "VlanId(" ++ v.vid.text ++ ")") ++ "]"

/-! ### Frames that come in -/

/-- The tag of a frame that comes in: one that is carried inside is taken out, and a tag of another
protocol gets this one. -/
def normalizeTag (proto : EtherType) (f : Frame) : Except DropReason Frame :=
  match f.tag with
  | some tag => .ok (f.withTag (some (tag.withProto proto)))
  | none =>
    match f.untag proto with
    | .error _ => .error .tagParse
    | .ok (some g) => .ok g
    | .ok none => .ok f

/-- The identifier that counts for a frame: its tag's, or the port's if it has none. -/
def effectiveVid (p : Port) (tag : Option Tag) : Vid :=
  match tag with
  | some tag => if tag.isPriorityOnly then p.pvid else tag.vid
  | none => p.pvid

/-- Finds the VLAN of a frame that comes in at a port, and gives the frame with its tag taken out. -/
def classify (db : VlanDb) (p : Port) (f : Frame) (proto : EtherType) :
    Except DropReason (Classification × Frame) :=
  match normalizeTag proto f with
  | .error reason => .error reason
  | .ok f =>
    let vid := effectiveVid p f.tag
    let record := db.find? vid
    let allowed := match record with
      | some r => p.index ∈ r.vlan.members || !p.ingress.vlanFiltering
      | none => false
    .ok ({ vid, record, allowed }, f)

/-! ### What the operations do to one VLAN -/

/-- A change of the VLANs that keeps their identifiers. -/
theorem vlan?_modify (db : VlanDb) (vid other : Vid) (f : Vlan → Vlan)
    (hf : ∀ v, (f v).vid = v.vid) :
    (db.modify vid f).vlan? other =
      if other = vid then (db.vlan? other).map f else db.vlan? other := by
  simp only [vlan?, find?, modify]
  induction db.published with
  | nil => simp
  | cons r rs ih =>
    simp only [List.map_cons, List.find?_cons]
    by_cases hr : r.vlan.vid = vid
    · simp only [hr, if_true, hf]
      by_cases ho : vid = other
      · simp [ho]
      · have ho' : ¬ other = vid := fun e => ho e.symm
        have : (vid == other) = false := by simpa using ho
        simp only [this, ho', if_false] at ih ⊢
        exact ih
    · simp only [hr, if_false]
      by_cases ho : r.vlan.vid = other
      · have hne : ¬ other = vid := fun e => hr (ho.trans e)
        simp [ho, hne]
      · have : (r.vlan.vid == other) = false := by simpa using ho
        simp only [this]
        exact ih

end VlanDb

end VlanBridge
