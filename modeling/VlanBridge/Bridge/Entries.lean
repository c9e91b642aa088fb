import VlanBridge.Bridge.Basic
/-!
# Managing the forwarding entries

Static entries are installed only for VLANs that exist and to ports that are installed.
-/

namespace VlanBridge.Bridge

open VlanBridge.Net

/-- Takes over a changed forwarding table and runs the releases that have become ready. -/
def settle (b : Bridge) (s : Learning) : Bridge := (b.withLearning s).reclaim.1

/-- Flushes by a filter; answers how many entries are removed. -/
def fdbFlush (b : Bridge) (f : FlushFilter) : Outcome Nat :=
  match b.toLearning.flush f b.clock with
  | .error e => (b, .error e)
  | .ok (s, gone) => (b.settle (s.tally .flushed gone.length), .ok gone.length)

def missingPort? (b : Bridge) (ports : PortSet) : Option PortIndex :=
  ports.toList.find? fun i => (b.ports.port? i).isNone

def fdbAdd (b : Bridge) (key : Key) (ports : PortSet) (origin : Origin) : Outcome Unit :=
  match b.vlans.require key.vid, b.missingPort? ports with
  | .error e, _ => (b, .error e)
  | .ok _, some i => (b, .error (.unknownPort i.val))
  | .ok _, none =>
    match b.toLearning.addStatic key ports origin with
    | .error e => (b, .error e)
    | .ok (s, _) => (b.settle s, .ok ())

def fdbDel (b : Bridge) (key : Key) : Outcome Unit :=
  match b.toLearning.remove key with
  | .error e => (b, .error e)
  | .ok (s, _) => (b.settle s, .ok ())

/-- What is shown of the entries, in the order of their keys. -/
def fdbRecords (b : Bridge) : List EntryRecord := b.fdb.records b.clock

/-- Learns an address at the port with a number, without a frame. -/
def learnAt (b : Bridge) (src : Mac) (vid : Vid) (n : Nat) : Outcome LearnOutcome :=
  match b.toLearning.learnNumbered src vid n b.clock with
  | .error e => (b, .error e)
  | .ok (s, outcome) => (b.withLearning s, .ok outcome)

end VlanBridge.Bridge
