import VlanBridge.Error
import VlanBridge.Fdb.Entry
import VlanBridge.Ordered
import VlanBridge.Text.Duration
/-!
# The forwarding table

The entries by ascending key. Learning makes and moves dynamic entries and leaves the others alone;
a static entry takes the place of a dynamic one but not of another static one; a flush takes a port,
or all ports, out of the entries that its filter covers and removes those that are left without any.
Operations that remove entries also give them back, because they may still be in use.
-/

namespace VlanBridge

open VlanBridge.Net VlanBridge.Text VlanBridge.Text.Number

inductive LearnOutcome where
  /-- The address is none of a station. -/
  | ignored
  /-- A static entry has the address. -/
  | static
  | learned
  | refreshed
  | moved
  deriving DecidableEq, Repr

structure Fdb where
  /-- The entries by ascending key. -/
  entries : List Entry := []
  /-- How long a dynamic entry may be idle, in nanoseconds. -/
  ageing : Nat
  deriving DecidableEq

namespace Fdb

instance : Inhabited Fdb := ⟨{ ageing := 0 }⟩

def rank (e : Entry) : Nat := e.key.rank

def find? (t : Fdb) (key : Key) : Option Entry := t.entries.find? (·.key == key)

def size (t : Fdb) : Nat := t.entries.length

def insert (t : Fdb) (e : Entry) : Fdb := { t with entries := Ordered.insert rank e t.entries }

def modify (t : Fdb) (key : Key) (f : Entry → Entry) : Fdb :=
  { t with entries := t.entries.map fun e => if e.key = key then f e else e }

/-! ### Learning and looking up -/

/-- The entry after its address was seen at a port. -/
def seen (e : Entry) (i : PortIndex) (now : Nat) : Entry :=
  { e with
    ports := if i ∈ e.ports then e.ports else PortSet.singleton i
    lastSeen := max e.lastSeen now }

def learn (t : Fdb) (src : Mac) (vid : Vid) (i : PortIndex) (now : Int) : Fdb × LearnOutcome :=
  if !src.isStation then (t, .ignored)
  else
    let key := Key.mac vid src
    match t.find? key with
    | none => (t.insert ⟨key, .dynamic, PortSet.singleton i, stamp now⟩, .learned)
    | some e =>
      if e.origin = .dynamic then
        (t.modify key (seen · i (stamp now)), if i ∈ e.ports then .refreshed else .moved)
      else (t, .static)

/-- Learns an address at the port with a number; one that names no slot is a fault unless nothing is
to be learned. -/
def learnNumbered (t : Fdb) (src : Mac) (vid : Vid) (n : Nat) (now : Int) :
    Except BridgeError (Fdb × LearnOutcome) :=
  match PortIndex.ofNat? n with
  | some i => .ok (t.learn src vid i now)
  | none =>
    if !src.isStation then .ok (t, .ignored)
    else match t.find? (Key.mac vid src) with
      | some e => if e.origin = .dynamic then .error (.portOutOfRange n) else .ok (t, .static)
      | none => .error (.portOutOfRange n)

/-- The ports that frames for a key are sent to, with the router ports if the key is a group. -/
def lookup (t : Fdb) (key : Key) (routers : PortSet) : Option PortSet :=
  (t.find? key).map fun e => if key.address.isGroup then e.ports ∪ routers else e.ports

/-! ### Static entries -/

/-- Installs a static entry; gives back the dynamic one that it replaces. -/
def addStatic (t : Fdb) (key : Key) (ports : PortSet) (origin : Origin) (now : Int) :
    Except BridgeError (Fdb × Option Entry) :=
  if origin = .dynamic then .error .dynamicNotAdded
  else if ports.isEmpty then .error (.emptyPorts key)
  else if key.address = .mac Mac.zero then .error (.zeroAddress key)
  else
    let added := t.insert ⟨key, origin, ports, stamp now⟩
    match t.find? key with
    | none => .ok (added, none)
    | some e => if e.origin = .dynamic then .ok (added, some e) else .error (.entryExists key)

def remove (t : Fdb) (key : Key) : Except BridgeError (Fdb × Entry) :=
  match t.find? key with
  | none => .error (.unknownEntry key)
  | some e => .ok ({ t with entries := t.entries.filter (·.key != key) }, e)

/-! ### Flushing -/

def isHit (t : Fdb) (f : FlushFilter) (port : Option PortIndex) (now : Nat) (e : Entry) : Bool :=
  e.covered f t.ageing now && e.sendsTo port

def flushed? (t : Fdb) (f : FlushFilter) (port : Option PortIndex) (now : Nat) (e : Entry) :
    Option Entry :=
  if t.isHit f port now e then
    if (e.portsWithout port).isEmpty then none else some { e with ports := e.portsWithout port }
  else some e

/-- Takes a port, or all ports, out of the entries that a filter covers. Gives the entries that are
removed; those that lost their last port to the filter have none. -/
def flushPort (t : Fdb) (f : FlushFilter) (port : Option PortIndex) (now : Int) :
    Fdb × List Entry :=
  let gone := t.entries.filter fun e => (t.flushed? f port (stamp now) e).isNone
  ({ t with entries := t.entries.filterMap (t.flushed? f port (stamp now)) },
    if port.isSome then gone.map ({ · with ports := ∅ }) else gone)

/-- Flushes by a filter. A port number that names no slot is a fault as soon as an entry has to be
compared with it. -/
def flush (t : Fdb) (f : FlushFilter) (now : Int) : Except BridgeError (Fdb × List Entry) :=
  match f.port with
  | none => .ok (t.flushPort f none now)
  | some n =>
    match PortIndex.ofNat? n with
    | some i => .ok (t.flushPort f (some i) now)
    | none =>
      if t.entries.any (·.covered f t.ageing (stamp now)) then .error (.portOutOfRange n)
      else .ok (t, [])

/-- Removes the dynamic entries that have been idle for longer than the ageing time. -/
def sweep (t : Fdb) (now : Int) : Fdb × List Entry := t.flushPort FlushFilter.aged none now

/-! ### Showing -/

def records (t : Fdb) (now : Int) : List EntryRecord := t.entries.map (·.record (stamp now))

def text (t : Fdb) : String :=
  "Fdb \x7b entries: " ++ decimal t.size ++ ", ageing_time: " ++ Duration.text t.ageing ++ " \x7d"

/-- An entry that someone holds on to: as it is in the table, or as it was when it was removed. -/
inductive Held where
  | inTable (key : Key)
  | removed (entry : Entry)

def hold (t : Fdb) (key : Key) : Option Held := (t.find? key).map fun _ => .inTable key

def Held.entry? (t : Fdb) : Held → Option Entry
  | .inTable key => t.find? key
  | .removed e => some e

/-- What is held after some entries have been removed. -/
def Held.after (gone : List Entry) : Held → Held
  | .inTable key =>
    match gone.find? (·.key == key) with
    | some e => .removed e
    | none => .inTable key
  | .removed e => .removed e

/-! ### Small facts -/

theorem find?_key {t : Fdb} {key : Key} {e : Entry} (h : t.find? key = some e) : e.key = key := by
  have := List.find?_some h
  simpa using this

theorem mem_of_find? {t : Fdb} {key : Key} {e : Entry} (h : t.find? key = some e) :
    e ∈ t.entries := List.mem_of_find?_eq_some h

theorem find?_modify (t : Fdb) (key other : Key) (f : Entry → Entry)
    (hf : ∀ e, (f e).key = e.key) :
    (t.modify key f).find? other =
      if other = key then (t.find? other).map f else t.find? other := by
  simp only [find?, modify]
  induction t.entries with
  | nil => simp
  | cons e es ih =>
    simp only [List.map_cons, List.find?_cons]
    by_cases he : e.key = key
    · simp only [he, if_true, hf]
      by_cases ho : key = other
      · simp [ho]
      · have ho' : ¬ other = key := fun h => ho h.symm
        have : (key == other) = false := by simpa using ho
        simp only [this, ho', if_false] at ih ⊢
        exact ih
    · simp only [he, if_false]
      by_cases ho : e.key = other
      · have hne : ¬ other = key := fun h => he (ho.trans h)
        simp [ho, hne]
      · have : (e.key == other) = false := by simpa using ho
        simp only [this]
        exact ih

end Fdb

end VlanBridge
