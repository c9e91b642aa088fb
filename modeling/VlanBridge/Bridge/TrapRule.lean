import VlanBridge.Bridge.Basic
/-!
# Rules for the trap

A rule tells the frames that the trap takes by what they are and where they come from. What a rule
leaves open does not matter; a rule that leaves everything open takes every frame.
-/

namespace VlanBridge

open VlanBridge.Net

structure TrapRule where
  etherType : Option EtherType := none
  /-- The written form of the destination. -/
  dst : Option String := none
  /-- The slot of the port that the frame has come in by. -/
  ingress : Option Nat := none
  vid : Option Vid := none
  deriving DecidableEq, Repr

namespace TrapRule

/-- Whether something is what is asked for, if anything is. -/
def agrees {α : Type} [DecidableEq α] (asked actual : Option α) : Bool :=
  asked.isNone || asked == actual

/-- Whether a frame is one of those that a rule takes. -/
def accepts (r : TrapRule) (ingress : PortIndex) (vid : Vid) (f : Frame) : Bool :=
  agrees r.etherType f.etherType? && agrees r.dst (f.dst?.map (·.text))
    && agrees r.ingress (some ingress.val) && agrees r.vid (some vid)

def trap (r : TrapRule) : Trap := ⟨r.accepts⟩

end TrapRule

end VlanBridge
