/-!
# Random numbers for traffic

All that is left to chance in a frame is drawn as one `Draw` of whole numbers; whoever uses one of
them reduces it to the number of choices that there are. A `Dice` has a draw for every frame, so what
holds for every `Dice` holds whatever is drawn.

`seeded` makes one from the 64-bit numbers that a multiply-and-shift mixer gives for the multiples of an
odd constant. Which numbers belong to a seed is not laid down anywhere: any other generator would do,
and another one draws other frames for the same seed.
-/

namespace VlanBridge.Traffic

structure Draw where
  /-- Which station sends it. -/
  source : Nat
  /-- Whether it goes to all stations. -/
  percent : Nat
  /-- Behind which port its destination is. -/
  peer : Nat
  /-- Which station there is its destination. -/
  target : Nat
  /-- Whether it has a tag. -/
  coin : Nat
  /-- The VLAN of its tag. -/
  vlan : Nat
  deriving DecidableEq, Repr, Inhabited

/-- What is drawn for each frame, by the number of the frame. -/
abbrev Dice := Nat → Draw

namespace Dice

/-- The step from one number to be mixed to the next. -/
def stride : UInt64 := 0x9e3779b97f4a7c15

/-- Spreads a change in any bit over all bits. -/
def mix (n : UInt64) : UInt64 :=
  let n := (n ^^^ (n >>> 30)) * 0xbf58476d1ce4e5b9
  let n := (n ^^^ (n >>> 27)) * 0x94d049bb133111eb
  n ^^^ (n >>> 31)

/-- The number at a place of the row that begins with a seed. -/
def number (seed : UInt64) (place : Nat) : Nat :=
  (mix (seed + UInt64.ofNat (place + 1) * stride)).toNat

/-- Six numbers for each frame from a row of numbers. -/
def ofNumbers (row : Nat → Nat) : Dice := fun frame =>
  { source := row (6 * frame)
    percent := row (6 * frame + 1)
    peer := row (6 * frame + 2)
    target := row (6 * frame + 3)
    coin := row (6 * frame + 4)
    vlan := row (6 * frame + 5) }

def seeded (seed : Nat) : Dice := ofNumbers (number (UInt64.ofNat seed))

end Dice

end VlanBridge.Traffic
