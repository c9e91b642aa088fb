import VlanBridge.Bridge.Ports
/-!
# Ageing, sleeping and shutting down

The ageing task wakes each half of the ageing time, but no more often than every 100 ms, counted from
its start, as its timer lets it. When it wakes it removes the dynamic entries that have been idle for
longer than the ageing time, and runs the releases that have become ready.
The clock moves only while the bridge sleeps; a sweep that is due at the very end of a sleep belongs
to it.
-/

namespace VlanBridge.Bridge

/-- The shortest time between two sweeps, in nanoseconds. -/
def minSweepPeriod : Nat := 100000000

/-- The time for which the ageing task waits between two sweeps. -/
def sweepPeriod (b : Bridge) : Nat := max (b.fdb.ageing / 2) minSweepPeriod

theorem sweepPeriod_pos (b : Bridge) : 0 < b.sweepPeriod :=
  Nat.lt_of_lt_of_le (by decide) (Nat.le_max_right _ _)

/-- Starts the ageing task with a timer to wake it, if there is one. -/
def startAgeing (b : Bridge) (timer : Option Timer) : Outcome Unit :=
  match timer with
  | none => (b, .error .noTimer)
  | some timer =>
    match b.nextSweep with
    | some _ => (b, .error .ageingStarted)
    | none => ({ b with nextSweep := some (timer.set b.clock b.sweepPeriod) }, .ok ())

/-- A sweep at a point of time, after which the timer is set again. -/
def swept (b : Bridge) (now : Nat) : Bridge :=
  { b with
    toLearning := (({ b.toLearning with clock := now } : Learning).sweep now).1
    nextSweep := b.nextSweep.map fun alarm => alarm.timer.set now b.sweepPeriod }

/-- Sleeps until the ageing task wakes at a point of time, and lets it do its work. -/
def wake (b : Bridge) (due : Nat) : Bridge := (b.swept due).reclaim.1

def wakes : Nat → Bridge → Bridge
  | 0, b => b
  | n + 1, b =>
    match b.nextSweep with
    | some alarm => wakes n (b.wake alarm.due)
    | none => b

/-- How often the ageing task wakes until a point of time, that point included. -/
def wakesUntil (b : Bridge) (finish : Nat) : Nat :=
  match b.nextSweep with
  | some alarm =>
    if alarm.due ≤ finish then (finish - alarm.due) / alarm.timer.wait b.sweepPeriod + 1 else 0
  | none => 0

def sleep (b : Bridge) (ms : Nat) : Bridge :=
  let finish := b.clock + ms * 1000000
  { wakes (b.wakesUntil finish) b with clock := finish }

/-- Stops ageing, deletes every port but the local one, and runs the releases that are left. -/
def shutdown (b : Bridge) : Bridge :=
  let devicePorts := (b.ports.list.map (·.index)).filter (· != localPort)
  let b : Bridge := { b with nextSweep := none }
  (devicePorts.foldl (fun b i => (b.portDel i.val).1) b).quiesce.1

end VlanBridge.Bridge
