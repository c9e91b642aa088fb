/-!
# Timers

A task that waits sets a timer to a time and goes on when it rings. A timer may be unable to wait for
longer than so much; set to more, it rings after that.
-/

namespace VlanBridge

structure Timer where
  /-- The longest time that it can wait, in nanoseconds, if there is one. -/
  longest : Option Nat := none
  longest_ne_zero : longest ≠ some 0 := by decide
  deriving DecidableEq

/-- A timer that has been set. -/
structure Alarm where
  timer : Timer
  /-- When it rings. -/
  due : Nat
  deriving DecidableEq

namespace Timer

/-- How long it waits when it is set to a time. -/
def wait (t : Timer) (time : Nat) : Nat :=
  match t.longest with
  | some most => min time most
  | none => time

def set (t : Timer) (now time : Nat) : Alarm := ⟨t, now + t.wait time⟩

/-- It waits just as long as it is set to. -/
def Keeps (t : Timer) (time : Nat) : Prop := t.wait time = time

theorem wait_pos (t : Timer) {time : Nat} (h : 0 < time) : 0 < t.wait time := by
  unfold wait
  split
  · rename_i most hmost
    have hmost : most ≠ 0 := fun hzero => t.longest_ne_zero (hzero ▸ hmost)
    omega
  · exact h

theorem keeps_iff {t : Timer} {time : Nat} : t.Keeps time ↔ ∀ most ∈ t.longest, time ≤ most := by
  unfold Keeps wait
  cases t.longest with
  | none => simp
  | some most =>
    simp only [Option.mem_some_iff, forall_eq']
    omega

end Timer

end VlanBridge
