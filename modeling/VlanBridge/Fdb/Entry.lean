import VlanBridge.Fdb.Key
import VlanBridge.PortSet
/-!
# Entries of the forwarding table

An entry sends the frames for its key to a set of ports. Dynamic entries are learned, move and age;
the others stay as they were installed. Points of time are nanoseconds after the table was made,
kept in 64 bits: earlier ones count as zero and later ones as the largest.
-/

namespace VlanBridge

open VlanBridge.Net

inductive Origin where
  | dynamic
  | external
  | user
  deriving DecidableEq, Repr

structure Entry where
  key : Key
  origin : Origin
  ports : PortSet
  lastSeen : Nat
  deriving DecidableEq

structure EntryRecord where
  key : Key
  ports : PortSet
  origin : Origin
  /-- How many whole milliseconds ago its address was last seen. -/
  idleMs : Nat
  deriving DecidableEq

/-- Which entries a flush takes out; each criterion that is given narrows them down. -/
structure FlushFilter where
  port : Option Nat := none
  vid : Option Vid := none
  origin : Option Origin := none
  /-- Only dynamic entries that have been idle for longer than the ageing time. -/
  agedOnly : Bool := false
  deriving DecidableEq, Repr, Inhabited

namespace FlushFilter

def all : FlushFilter := {}

def onPort (n : Nat) : FlushFilter := { port := some n }

def dynamicOnPort (n : Nat) : FlushFilter := { port := some n, origin := some .dynamic }

/-- Takes out the entries that have been idle for too long. -/
def aged : FlushFilter := { origin := some .dynamic, agedOnly := true }

end FlushFilter

/-- The largest point of time and the longest length of time, in nanoseconds. -/
def maxStamp : Nat := UInt64.size - 1

/-- A point of time as it is kept. -/
def stamp (now : Int) : Nat := min now.toNat maxStamp

namespace Entry

/-- How long ago the address of an entry was last seen; a point of time before that counts as none. -/
def idle (e : Entry) (now : Nat) : Nat := now - e.lastSeen

/-- Whether an entry has been idle for longer than the ageing time. -/
def isAged (e : Entry) (ageing now : Nat) : Bool :=
  e.origin == .dynamic && min ageing maxStamp < e.idle now

def record (e : Entry) (now : Nat) : EntryRecord :=
  ⟨e.key, e.ports, e.origin, e.idle now / 1000000⟩

/-- Whether an entry meets the criteria of a filter, the port apart. -/
def covered (e : Entry) (f : FlushFilter) (ageing now : Nat) : Bool :=
  f.vid.all (· == e.key.vid) && f.origin.all (· == e.origin) && (!f.agedOnly || e.isAged ageing now)

/-- Whether the entry sends to the given port; every entry does if none is given. -/
def sendsTo (e : Entry) (port : Option PortIndex) : Bool :=
  match port with
  | some i => i ∈ e.ports
  | none => true

/-- The ports that are left without the given one, or without all of them. -/
def portsWithout (e : Entry) (port : Option PortIndex) : PortSet :=
  match port with
  | some i => e.ports.erase i
  | none => ∅

end Entry

end VlanBridge
