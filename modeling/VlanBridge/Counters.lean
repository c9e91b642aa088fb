import VlanBridge.Verdict
/-!
# Counters

Twenty 64-bit counters that wrap around. `Counter` names them, `Counters` holds their values; `get`
is the view and `get_add` says what counting does to it. Each drop reason has a counter of its own.
-/

namespace VlanBridge

inductive Counter where
  | rxFrames
  | txFrames
  | txErrors
  | localDelivered
  | trapped
  /-- Frames sent by a flood set. -/
  | flooded
  /-- Frames sent by the entry of a MAC address. -/
  | unicastHits
  /-- Frames sent by the entry of an IP group. -/
  | groupHits
  | learned
  /-- Entries that were made by another frame in between. -/
  | learnRaces
  | stationMoves
  | aged
  | flushed
  | dropRunt
  | dropTagParse
  | dropVlan
  | dropPortInactive
  | dropNoDestination
  | dropCloneFailure
  | dropTxFailed
  deriving DecidableEq, Repr

structure Counters where
  rxFrames : UInt64 := 0
  txFrames : UInt64 := 0
  txErrors : UInt64 := 0
  localDelivered : UInt64 := 0
  trapped : UInt64 := 0
  flooded : UInt64 := 0
  unicastHits : UInt64 := 0
  groupHits : UInt64 := 0
  learned : UInt64 := 0
  learnRaces : UInt64 := 0
  stationMoves : UInt64 := 0
  aged : UInt64 := 0
  flushed : UInt64 := 0
  dropRunt : UInt64 := 0
  dropTagParse : UInt64 := 0
  dropVlan : UInt64 := 0
  dropPortInactive : UInt64 := 0
  dropNoDestination : UInt64 := 0
  dropCloneFailure : UInt64 := 0
  dropTxFailed : UInt64 := 0
  deriving DecidableEq, Repr, Inhabited

def DropReason.counter : DropReason → Counter
  | .runt => .dropRunt
  | .tagParse => .dropTagParse
  | .vlanNotAllowed => .dropVlan
  | .portInactive => .dropPortInactive
  | .noDestination => .dropNoDestination
  | .cloneFailure => .dropCloneFailure
  | .transmitFailed => .dropTxFailed

namespace Counter

/-- All counters, in the order in which they are listed. -/
def all : List Counter :=
  [.rxFrames, .txFrames, .txErrors, .localDelivered,
    .trapped, .flooded, .unicastHits, .groupHits,
    .learned, .learnRaces, .stationMoves, .aged,
    .flushed, .dropRunt, .dropTagParse, .dropVlan,
    .dropPortInactive, .dropNoDestination, .dropCloneFailure, .dropTxFailed]

def name : Counter → String
  | .rxFrames => "rx_frames"
  | .txFrames => "tx_frames"
  | .txErrors => "tx_errors"
  | .localDelivered => "local_delivered"
  | .trapped => "trapped"
  | .flooded => "flooded"
  | .unicastHits => "unicast_hits"
  | .groupHits => "group_hits"
  | .learned => "learned"
  | .learnRaces => "learn_races"
  | .stationMoves => "station_moves"
  | .aged => "aged"
  | .flushed => "flushed"
  | .dropRunt => "drop_runt"
  | .dropTagParse => "drop_tag_parse"
  | .dropVlan => "drop_vlan"
  | .dropPortInactive => "drop_port_inactive"
  | .dropNoDestination => "drop_no_destination"
  | .dropCloneFailure => "drop_clone_failure"
  | .dropTxFailed => "drop_tx_failed"

theorem mem_all (c : Counter) : c ∈ all := by
  cases c <;> decide

def named? (s : String) : Option Counter := all.find? (·.name == s)

end Counter

namespace Counters

def get (cs : Counters) : Counter → UInt64
  | .rxFrames => cs.rxFrames
  | .txFrames => cs.txFrames
  | .txErrors => cs.txErrors
  | .localDelivered => cs.localDelivered
  | .trapped => cs.trapped
  | .flooded => cs.flooded
  | .unicastHits => cs.unicastHits
  | .groupHits => cs.groupHits
  | .learned => cs.learned
  | .learnRaces => cs.learnRaces
  | .stationMoves => cs.stationMoves
  | .aged => cs.aged
  | .flushed => cs.flushed
  | .dropRunt => cs.dropRunt
  | .dropTagParse => cs.dropTagParse
  | .dropVlan => cs.dropVlan
  | .dropPortInactive => cs.dropPortInactive
  | .dropNoDestination => cs.dropNoDestination
  | .dropCloneFailure => cs.dropCloneFailure
  | .dropTxFailed => cs.dropTxFailed

/-- Adds to one counter, modulo 2^64. -/
def add (cs : Counters) (c : Counter) (n : UInt64) : Counters :=
  match c with
  | .rxFrames => { cs with rxFrames := cs.rxFrames + n }
  | .txFrames => { cs with txFrames := cs.txFrames + n }
  | .txErrors => { cs with txErrors := cs.txErrors + n }
  | .localDelivered => { cs with localDelivered := cs.localDelivered + n }
  | .trapped => { cs with trapped := cs.trapped + n }
  | .flooded => { cs with flooded := cs.flooded + n }
  | .unicastHits => { cs with unicastHits := cs.unicastHits + n }
  | .groupHits => { cs with groupHits := cs.groupHits + n }
  | .learned => { cs with learned := cs.learned + n }
  | .learnRaces => { cs with learnRaces := cs.learnRaces + n }
  | .stationMoves => { cs with stationMoves := cs.stationMoves + n }
  | .aged => { cs with aged := cs.aged + n }
  | .flushed => { cs with flushed := cs.flushed + n }
  | .dropRunt => { cs with dropRunt := cs.dropRunt + n }
  | .dropTagParse => { cs with dropTagParse := cs.dropTagParse + n }
  | .dropVlan => { cs with dropVlan := cs.dropVlan + n }
  | .dropPortInactive => { cs with dropPortInactive := cs.dropPortInactive + n }
  | .dropNoDestination => { cs with dropNoDestination := cs.dropNoDestination + n }
  | .dropCloneFailure => { cs with dropCloneFailure := cs.dropCloneFailure + n }
  | .dropTxFailed => { cs with dropTxFailed := cs.dropTxFailed + n }

def count (cs : Counters) (c : Counter) : Counters := cs.add c 1

def countDrop (cs : Counters) (reason : DropReason) : Counters := cs.count reason.counter

theorem get_add (cs : Counters) (c d : Counter) (n : UInt64) :
    (cs.add c n).get d = if d = c then cs.get d + n else cs.get d := by
  cases c <;> cases d <;> rfl

theorem get_count (cs : Counters) (c d : Counter) :
    (cs.count c).get d = if d = c then cs.get d + 1 else cs.get d :=
  get_add cs c d 1

theorem get_zero (c : Counter) : ({} : Counters).get c = 0 := by
  cases c <;> rfl

theorem ext_get {cs ds : Counters} (h : ∀ c, cs.get c = ds.get c) : cs = ds := by
  cases cs
  cases ds
  congr 1
  · exact h .rxFrames
  · exact h .txFrames
  · exact h .txErrors
  · exact h .localDelivered
  · exact h .trapped
  · exact h .flooded
  · exact h .unicastHits
  · exact h .groupHits
  · exact h .learned
  · exact h .learnRaces
  · exact h .stationMoves
  · exact h .aged
  · exact h .flushed
  · exact h .dropRunt
  · exact h .dropTagParse
  · exact h .dropVlan
  · exact h .dropPortInactive
  · exact h .dropNoDestination
  · exact h .dropCloneFailure
  · exact h .dropTxFailed

def dropped (cs : Counters) : UInt64 :=
  cs.dropRunt + cs.dropTagParse + cs.dropVlan + cs.dropPortInactive + cs.dropNoDestination
    + cs.dropCloneFailure + cs.dropTxFailed

end Counters

end VlanBridge
