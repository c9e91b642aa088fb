import VlanBridge.Counters
import VlanBridge.Fdb
import VlanBridge.Reclaimer
/-!
# The forwarding table at work

The forwarding table together with what its operations touch: the clock, the counters and the
releases of removed entries, which wait until no frame in flight can use the entries. An operation
that fails changes nothing.
-/

namespace VlanBridge

open VlanBridge.Net

/-- A release that waits for the frames in flight. -/
inductive Release where
  /-- Removed entries; nothing is left to do for them. -/
  | entries
  /-- The record of a deleted VLAN. -/
  | vlan (serial : Nat)
  /-- A deleted port; its slot becomes free. -/
  | slot (index : PortIndex)
  deriving DecidableEq, Repr

/-- The forwarding table, the counters, the waiting releases and the clock. -/
structure Learning where
  fdb : Fdb
  counters : Counters := {}
  reclaimer : Reclaimer Release := {}
  /-- Nanoseconds since the table was made. -/
  clock : Nat := 0
  deriving DecidableEq

namespace Learning

instance : Inhabited Learning := ⟨{ fdb := default }⟩

/-- The counter of an outcome of learning, if it has one. -/
def counterOf : LearnOutcome → Option Counter
  | .learned => some .learned
  | .moved => some .stationMoves
  | .ignored | .static | .refreshed => none

/-- Takes over a table after learning and counts the outcome. -/
def learnedAs (s : Learning) (fdb : Fdb) (outcome : LearnOutcome) : Learning :=
  { s with
    fdb
    counters := match counterOf outcome with
      | some c => s.counters.count c
      | none => s.counters }

def learn (s : Learning) (src : Mac) (vid : Vid) (i : PortIndex) (now : Int) :
    Learning × LearnOutcome :=
  let (fdb, outcome) := s.fdb.learn src vid i now
  (s.learnedAs fdb outcome, outcome)

def learnNumbered (s : Learning) (src : Mac) (vid : Vid) (n : Nat) (now : Int) :
    Except BridgeError (Learning × LearnOutcome) :=
  match s.fdb.learnNumbered src vid n now with
  | .ok (fdb, outcome) => .ok (s.learnedAs fdb outcome, outcome)
  | .error e => .error e

/-- Takes over a table out of which entries have been removed; their release waits. -/
def without (s : Learning) (fdb : Fdb) (gone : List Entry) : Learning :=
  { s with
    fdb
    reclaimer := if gone.isEmpty then s.reclaimer else s.reclaimer.retire .entries }

/-- Installs a static entry; gives the dynamic entries that it replaces. -/
def addStatic (s : Learning) (key : Key) (ports : PortSet) (origin : Origin) :
    Except BridgeError (Learning × List Entry) :=
  match s.fdb.addStatic key ports origin s.clock with
  | .ok (fdb, replaced) => .ok (s.without fdb replaced.toList, replaced.toList)
  | .error e => .error e

def remove (s : Learning) (key : Key) : Except BridgeError (Learning × List Entry) :=
  match s.fdb.remove key with
  | .ok (fdb, e) => .ok (s.without fdb [e], [e])
  | .error e => .error e

/-- Flushes by a filter with a port that is a slot. -/
def flushPort (s : Learning) (f : FlushFilter) (port : Option PortIndex) (now : Int) :
    Learning × List Entry :=
  let (fdb, gone) := s.fdb.flushPort f port now
  (s.without fdb gone, gone)

/-- Flushes by a filter; gives the entries that are removed. -/
def flush (s : Learning) (f : FlushFilter) (now : Int) :
    Except BridgeError (Learning × List Entry) :=
  match s.fdb.flush f now with
  | .ok (fdb, gone) => .ok (s.without fdb gone, gone)
  | .error e => .error e

def tally (s : Learning) (c : Counter) (n : Nat) : Learning :=
  { s with counters := s.counters.add c (UInt64.ofNat n) }

/-- Removes the dynamic entries that have been idle for too long, and counts them. -/
def sweep (s : Learning) (now : Int) : Learning × List Entry :=
  let (s, gone) := s.flushPort FlushFilter.aged none now
  (s.tally .aged gone.length, gone)

def wait (s : Learning) (ms : Nat) : Learning := { s with clock := s.clock + ms * 1000000 }

def reclaim (s : Learning) : Learning × List Release :=
  let (reclaimer, released) := s.reclaimer.reclaim (fun _ => [])
  ({ s with reclaimer }, released)

theorem without_nil (s : Learning) (fdb : Fdb) : s.without fdb [] = { s with fdb } := rfl

end Learning

end VlanBridge
